import TuringScript.CharClass.Reader
import TuringScript.Proofs.CharClass.Remaining

/-!
# Iterating over a class

A class cursor goes through the alternatives of its class like an index through a list. Whether it
keeps an index or a rank, its calls lead to the places that counting leads to, and a walk to the end
visits every alternative once.
-/
namespace TuringScript

/-- A call that moves a cursor. -/
inductive CursorCall where
  | advance
  | reset
  deriving DecidableEq, Repr

/-- Where a call leads from a place among `size` alternatives. The place `size` is the end. -/
def CursorCall.lead (size place : Nat) : CursorCall → Nat
  | .advance => min (place + 1) size
  | .reset => 0

theorem CursorCall.lead_le (size place : Nat) (call : CursorCall) :
    call.lead size place ≤ size := by
  cases call with
  | advance => exact Nat.min_le_right _ _
  | reset => exact Nat.zero_le size

namespace ClassCursor

/-- The cursor after a call. -/
def call (cursor : ClassCursor) : CursorCall → ClassCursor
  | .advance => cursor.advance.2
  | .reset => cursor.reset

/-- The cursor after calls made one after another. -/
def follow (cursor : ClassCursor) (calls : List CursorCall) : ClassCursor :=
  calls.foldl call cursor

/-! ### Places -/

variable {source : CharClass} {place : Nat}

theorem atEnd_seek_iff (within : place ≤ source.size) :
    (seek source place).atEnd ↔ place = source.size := by
  rw [atEnd_seek, decide_eq_true_iff]
  exact ⟨Nat.le_antisymm within, fun same => Nat.le_of_eq same.symm⟩

/-- At the end the cursor stays where it is, as counting does. -/
theorem next_seek_lead (within : place ≤ source.size) :
    (seek source place).next = seek source (CursorCall.advance.lead source.size place) := by
  rcases Nat.lt_or_eq_of_le within with before | rfl
  · rw [next_seek, CursorCall.lead, Nat.min_eq_left before]
  · have ended := (atEnd_seek_iff within).mpr rfl
    rw [next, if_pos ended, CursorCall.lead, Nat.min_eq_right (Nat.le_succ _)]

theorem advance_seek_iff (within : place ≤ source.size) :
    (seek source place).advance.1 ↔ CursorCall.advance.lead source.size place < source.size := by
  have led := CursorCall.advance.lead_le source.size place
  rw [advance, next_seek_lead within, Bool.not_eq_true', ← Bool.not_eq_true, atEnd_seek_iff led]
  exact ⟨Nat.lt_of_le_of_ne led, Nat.ne_of_lt⟩

theorem call_seek (within : place ≤ source.size) (call : CursorCall) :
    (seek source place).call call = seek source (call.lead source.size place) := by
  cases call with
  | advance => exact next_seek_lead within
  | reset => exact reset_seek source place

theorem follow_seek (within : place ≤ source.size) (calls : List CursorCall) :
    (seek source place).follow calls =
        seek source (calls.foldl (CursorCall.lead source.size) place) ∧
      calls.foldl (CursorCall.lead source.size) place ≤ source.size := by
  -- Call by call: those after the first one start from the place it leads to.
  induction calls generalizing place with
  | nil => exact ⟨rfl, within⟩
  | cons call calls ih =>
    have led := ih (call.lead_le source.size place)
    rw [← call_seek within call] at led
    exact led

/-- The class spelled anywhere in a text, and any calls on its cursor: counting tells the place, and
with it whether the cursor is at the end, what it reads there, and what a further call answers. -/
theorem follow_ofSpan (text : List Char) (start stop : Nat) :
    let source := CharClass.ofSpan text start stop
    source.alternatives.length = source.size ∧
    ∀ calls : List CursorCall,
      let cursor := (ofClass source).follow calls
      let place := calls.foldl (CursorCall.lead source.size) 0
      place ≤ source.size ∧
      (cursor.atEnd ↔ place = source.size) ∧
      (cursor.advance.1 ↔ CursorCall.advance.lead source.size place < source.size) ∧
      cursor.symbol? = source.alternatives[place]?.map Alternative.symbol ∧
      cursor.char? = source.alternatives[place]?.map Alternative.char ∧
      (source.isEmpty ↔ cursor.reset.atEnd) := by
  intro source
  refine ⟨source.size_eq_length.symm, fun calls => ?_⟩
  intro cursor place
  obtain ⟨(reached : cursor = seek source place), within⟩ := follow_seek source.size.zero_le calls
  rw [reached]
  refine ⟨within, atEnd_seek_iff within, advance_seek_iff within, ?_, ?_, ?_⟩
  · rw [symbol?, current?_seek]
  · rw [char?, current?_seek]
  · rw [reset_seek, atEnd_seek_iff source.size.zero_le, CharClass.isEmpty, beq_iff_eq, eq_comm]

/-! ### Walks -/

/-- The places that are left to a cursor, at most. -/
def room (cursor : ClassCursor) : Nat :=
  match cursor.source.members with
  | .listed items => items.length - cursor.position
  | .complement _ => Alphabet.size - cursor.position

theorem room_next_lt {cursor : ClassCursor} (inside : ¬ cursor.atEnd) :
    cursor.next.room < cursor.room := by
  rw [next, if_neg inside]
  rw [atEnd] at inside
  cases members : cursor.source.members with
  | listed items =>
    simp only [members, decide_eq_true_eq] at inside
    simp only [room, members]
    omega
  | complement excluded =>
    -- At least one rank is passed, and each excluded one after it.
    simp only [members, decide_eq_true_eq] at inside
    simp only [room, members, nextIncluded]
    omega

/-- The cursor at its own place and at every place after it. -/
def visits (cursor : ClassCursor) : List ClassCursor :=
  if cursor.atEnd then [] else cursor :: cursor.next.visits
termination_by cursor.room
decreasing_by exact room_next_lt ‹_›

theorem map_current?_visits {cursor : ClassCursor} (settled : cursor.Settled) :
    cursor.visits.map current? = cursor.remaining.map some := by
  -- Along the walk: each place reads the first of what remains and leaves the tail of it.
  fun_induction visits cursor with
  | case1 cursor ended =>
    rw [atEnd_eq_isEmpty settled, List.isEmpty_iff] at ended
    rw [ended]
    rfl
  | case2 cursor inside ih =>
    rw [List.map_cons, ih (settled_next settled), remaining_next settled,
      current?_eq_head? settled]
    rw [atEnd_eq_isEmpty settled, List.isEmpty_iff] at inside
    cases rest : cursor.remaining with
    | nil => exact absurd rest inside
    | cons first rest => rfl

/-- What a walk from the first place to the end reads. -/
theorem map_char?_visits (source : CharClass) :
    (ofClass source).visits.map char? =
      (source.alternatives.map Alternative.char).map some := by
  have spelled : char? = Option.map Alternative.char ∘ current? := rfl
  rw [spelled, ← List.map_map, map_current?_visits (settled_ofClass source), remaining_ofClass,
    List.map_map, List.map_map]
  rfl

theorem length_visits (source : CharClass) : (ofClass source).visits.length = source.size := by
  have read := congrArg List.length (map_char?_visits source)
  rw [List.length_map, List.length_map, List.length_map] at read
  rw [read, CharClass.size_eq_length]

end ClassCursor
end TuringScript
