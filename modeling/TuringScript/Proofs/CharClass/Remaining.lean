import Mathlib.Logic.Function.Iterate
import TuringScript.CharClass.Cursor

/-!
# What remains of a class

A class cursor is understood by the alternatives from it on, whether its position is an index or a
rank. Moving on drops the first of them, so after `n` moves the cursor reads the `n`-th alternative
of the class.
-/
namespace TuringScript.ClassCursor

/-- The alternatives from the cursor on. -/
def remaining (cursor : ClassCursor) : List Alternative :=
  match cursor.source.members with
  | .listed items => items.drop cursor.position
  | .complement excluded =>
    ((Alphabet.chars.drop cursor.position).filter (· ∉ excluded)).map (⟨·, true⟩)

/-- In a complement the cursor rests on a rank that is not excluded, or at the end. -/
def Settled (cursor : ClassCursor) : Prop :=
  match cursor.source.members with
  | .listed _ => True
  | .complement excluded => ∀ c ∈ (Alphabet.chars.drop cursor.position).head?, c ∉ excluded

/-! ### Skipping excluded ranks -/

theorem drop_nextIncluded (excluded : List Char) (start : Nat) :
    Alphabet.chars.drop (nextIncluded excluded start) =
      (Alphabet.chars.drop start).dropWhile (· ∈ excluded) := by
  have split : ((Alphabet.chars.drop start).takeWhile (· ∈ excluded) ++
      (Alphabet.chars.drop start).dropWhile (· ∈ excluded)).drop
        ((Alphabet.chars.drop start).takeWhile (· ∈ excluded)).length =
      (Alphabet.chars.drop start).dropWhile (· ∈ excluded) := List.drop_left
  rwa [List.takeWhile_append_dropWhile, List.drop_drop] at split

theorem filter_dropWhile (excluded chars : List Char) :
    (chars.dropWhile (· ∈ excluded)).filter (· ∉ excluded) = chars.filter (· ∉ excluded) := by
  induction chars with
  | nil => rfl
  | cons c chars ih =>
    by_cases member : c ∈ excluded
    · rw [List.dropWhile_cons_of_pos (by simpa using member), ih,
        List.filter_cons_of_neg (by simpa using member)]
    · rw [List.dropWhile_cons_of_neg (by simpa using member)]

theorem head?_dropWhile (excluded chars : List Char) :
    ∀ c ∈ (chars.dropWhile (· ∈ excluded)).head?, c ∉ excluded := by
  intro c first
  have outside := List.head?_dropWhile_not (· ∈ excluded) chars
  rw [first] at outside
  simpa using outside

/-! ### The operations on what remains -/

theorem settled_ofClass (source : CharClass) : (ofClass source).Settled := by
  unfold ofClass Settled
  cases members : source.members with
  | listed items => simp [members]
  | complement excluded =>
    simp only [members, drop_nextIncluded]
    exact head?_dropWhile excluded _

theorem remaining_ofClass (source : CharClass) :
    (ofClass source).remaining = source.alternatives := by
  unfold ofClass remaining CharClass.alternatives
  cases members : source.members with
  | listed items => simp [members]
  | complement excluded =>
    simp only [members, drop_nextIncluded, filter_dropWhile, List.drop_zero]

theorem source_next (cursor : ClassCursor) : cursor.next.source = cursor.source := by
  unfold next
  split
  · rfl
  · split <;> rfl

variable {cursor : ClassCursor} (settled : cursor.Settled)
include settled

theorem current?_eq_head? : cursor.current? = cursor.remaining.head? := by
  unfold current? remaining
  unfold Settled at settled
  cases members : cursor.source.members with
  | listed items => simp only [List.head?_drop]
  | complement excluded =>
    simp only [members] at settled
    simp only [Alphabet.charAt?, ← List.head?_drop]
    -- The cursor rests on the first remaining character, so the filter keeps it.
    cases rest : Alphabet.chars.drop cursor.position with
    | nil => rfl
    | cons c rest =>
      rw [rest] at settled
      simp [settled c rfl]

theorem atEnd_eq_isEmpty : cursor.atEnd = cursor.remaining.isEmpty := by
  have read := current?_eq_head? settled
  have ended : cursor.atEnd = cursor.current?.isNone := by
    unfold atEnd current?
    rw [Bool.eq_iff_iff]
    cases cursor.source.members with
    | listed items => simp
    | complement excluded =>
      simp only [Alphabet.charAt?, Option.isNone_map, Option.isNone_iff_eq_none,
        List.getElem?_eq_none_iff]
      exact decide_eq_true_iff
  rw [ended, read]
  cases cursor.remaining <;> rfl

theorem settled_next : cursor.next.Settled := by
  unfold next
  split
  · exact settled
  · cases members : cursor.source.members with
    | listed items => simp [Settled, members]
    | complement excluded =>
      simp only [Settled, members, drop_nextIncluded]
      exact head?_dropWhile excluded _

theorem remaining_next : cursor.next.remaining = cursor.remaining.tail := by
  have ended := atEnd_eq_isEmpty settled
  unfold next
  split
  next atEnd =>
    rw [atEnd] at ended
    rw [List.isEmpty_iff.mp ended.symm, List.tail_nil]
  next =>
    unfold remaining
    unfold Settled at settled
    cases members : cursor.source.members with
    | listed items => simp only [members, List.tail_drop]
    | complement excluded =>
      -- Skipping excluded ranks removes nothing that the filter would have kept.
      simp only [members] at settled
      simp only [members, drop_nextIncluded, filter_dropWhile, ← List.tail_drop]
      cases rest : Alphabet.chars.drop cursor.position with
      | nil => rfl
      | cons c rest =>
        rw [rest] at settled
        simp [settled c rfl]

omit settled

/-! ### Moving through a class -/

/-- The cursor after `count` moves from the first alternative. -/
def seek (source : CharClass) (count : Nat) : ClassCursor := next^[count] (ofClass source)

theorem next_seek (source : CharClass) (count : Nat) :
    (seek source count).next = seek source (count + 1) :=
  (Function.iterate_succ_apply' next count _).symm

@[simp] theorem source_seek (source : CharClass) (count : Nat) :
    (seek source count).source = source := by
  induction count with
  | zero =>
    change (ofClass source).source = source
    unfold ofClass
    split <;> rfl
  | succ count ih => rw [← next_seek, source_next, ih]

theorem reset_seek (source : CharClass) (count : Nat) :
    (seek source count).reset = seek source 0 := by
  rw [reset, source_seek]
  rfl

theorem settled_seek (source : CharClass) (count : Nat) : (seek source count).Settled := by
  induction count with
  | zero => exact settled_ofClass source
  | succ count ih => exact next_seek source count ▸ settled_next ih

theorem remaining_seek (source : CharClass) (count : Nat) :
    (seek source count).remaining = source.alternatives.drop count := by
  induction count with
  | zero => exact remaining_ofClass source
  | succ count ih =>
    rw [← next_seek, remaining_next (settled_seek source count), ih, List.tail_drop]

theorem current?_seek (source : CharClass) (count : Nat) :
    (seek source count).current? = source.alternatives[count]? := by
  rw [current?_eq_head? (settled_seek source count), remaining_seek, List.head?_drop]

theorem atEnd_seek (source : CharClass) (count : Nat) :
    (seek source count).atEnd = decide (source.size ≤ count) := by
  rw [atEnd_eq_isEmpty (settled_seek source count), remaining_seek, CharClass.size_eq_length,
    Bool.eq_iff_iff, List.isEmpty_iff, List.drop_eq_nil_iff, decide_eq_true_iff]

end TuringScript.ClassCursor
