import Mathlib.Algebra.Group.Nat.Defs
import TuringScript.Proofs.Tape.Editing

/-!
# The window of a tape

A window shows the endless tape around the head, whatever part of it is stored. The positions it
goes by are signed 64-bit numbers, and none of them overflows unless the head is very far away from
the first stored cell.
-/
namespace TuringScript.Tape

/-! ### Around the head -/

/-- The cell that many places to the right of the head, blank if it is not stored. -/
def around (tape : Tape) (places : Int) : Char := tape.cellAt 0 (tape.headIndex + places)

theorem cellAt_zero_sub (tape : Tape) (first i : Int) :
    tape.cellAt 0 (i - first) = tape.cellAt first i := by
  unfold cellAt
  rw [Int.sub_zero]
  by_cases before : i < first
  · rw [if_pos before, if_pos (by omega)]
  · rw [if_neg before, if_neg (by omega)]

theorem Shows.around_eq {tape : Tape} {first last position : Int} {cells : Int → Char}
    (shows : tape.Shows first last cells position) (places : Int) :
    tape.around places = cells (position + places) := by
  have head := shows.head_eq
  rw [← shows.cell_eq, ← cellAt_zero_sub, around]
  congr 1
  omega

/-- A window is what is around the head, from half the width before it on. -/
theorem toList_window (tape : Tape) {width : Nat} (small : width < windowBound) :
    (tape.window width).toList =
      (List.range width).map fun (j : Nat) => tape.around (j - (width / 2 : Nat)) := by
  rw [window, if_neg (Nat.not_le.mpr small), String.toList_ofList]
  apply List.map_congr_left
  intro j _
  have index : (tape.headIndex : Int) - (width / 2 : Nat) + j =
      tape.headIndex + (j - (width / 2 : Nat)) := by omega
  simp only [around, cellAt, Int.sub_zero, index, List.getElem?_toArray]

/-- Tapes with the same cells around the head have the same windows, also those out of bounds. -/
theorem window_congr {tape other : Tape} (same : other.around = tape.around) (width : Nat) :
    other.window width = tape.window width := by
  by_cases small : width < windowBound
  · rw [← String.toList_inj, toList_window other small, toList_window tape small, same]
  · rw [window, window, if_pos (Nat.not_lt.mp small), if_pos (Nat.not_lt.mp small)]

/-! ### Signed numbers -/

/-- A number that is computed with 64 bits and a sign; nothing if it overflows. -/
def signed? (value : Int) : Option Int :=
  if -windowBound ≤ value ∧ value < windowBound then some value else none

/-- The window with every number it takes computed with 64 bits and a sign. -/
def signedWindow? (tape : Tape) (width : Nat) : Option String := do
  let head ← signed? tape.headIndex
  let half ← signed? (width / 2 : Nat)
  let start ← signed? (head - half)
  let stop ← signed? width
  let shown ← (List.range stop.toNat).mapM fun (offset : Nat) => do
    let offset ← signed? offset
    let index ← signed? (start + offset)
    return if index < 0 then Alphabet.blank else tape.cells[index.toNat]?.getD Alphabet.blank
  return String.ofList shown

/-- A number that does not overflow goes into what follows as it is. -/
theorem signed?_bind {α : Type} {value : Int} (lower : -windowBound ≤ value)
    (upper : value < windowBound) (next : Int → Option α) :
    signed? value >>= next = next value := by
  rw [signed?, if_pos ⟨lower, upper⟩]
  rfl

theorem mapM_eq_some_map {α β : Type} {f : α → Option β} {g : α → β} {items : List α}
    (each : ∀ item ∈ items, f item = some (g item)) : items.mapM f = some (items.map g) := by
  induction items with
  | nil => rfl
  | cons item items ih =>
    obtain ⟨first, others⟩ := List.forall_mem_cons.mp each
    simp [List.mapM_cons, first, ih others]

/-- Half a width and the index of the head are below a quarter of all numbers, so that their
difference does not overflow, and neither does what is at most half a width further on. -/
theorem signedWindow?_eq_some (tape : Tape) {width : Nat} (small : width < windowBound)
    (near : tape.headIndex < 2 ^ 62) : tape.signedWindow? width = some (tape.window width) := by
  have bound : windowBound = 9223372036854775808 := rfl
  rw [signedWindow?, signed?_bind (by omega) (by omega), signed?_bind (by omega) (by omega),
    signed?_bind (by omega) (by omega), signed?_bind (by omega) (by omega), Int.toNat_natCast,
    mapM_eq_some_map (g := fun (offset : Nat) => tape.around (offset - (width / 2 : Nat))),
    ← toList_window tape small]
  · exact congrArg some String.ofList_toList
  · intro offset member
    have inside := List.mem_range.mp member
    -- With the offset below the width, the index stays within half a width of the head.
    have index : (tape.headIndex : Int) - (width / 2 : Nat) + offset =
        tape.headIndex + (offset - (width / 2 : Nat)) := by omega
    rw [signed?_bind (by omega) (by omega), signed?_bind (by omega) (by omega), index, around,
      cellAt, Int.sub_zero]
    rfl

/-! ### Reached tapes -/

/-- Some part of the endless tape is stored, and the tape shows it. -/
theorem exists_shows_edits (content : String) (edits : List TapeEdit) :
    ∃ first last, (edits.foldl edit (ofString content)).Shows first last
      (edits.foldl EndlessTape.edit (EndlessTape.ofString content)).cells
      (edits.foldl EndlessTape.edit (EndlessTape.ofString content)).position := by
  have initial : (ofString content).Shows 0 (max content.length 1 - 1)
      (EndlessTape.ofString content).cells (EndlessTape.ofString content).position :=
    Shows.ofString content
  exact ⟨_, _, initial.edits edits⟩

/-- A window of a tape that was reached in any way shows as many cells of the endless tape as it is
wide, half of them before the head, and blanks for those that are not stored. No number overflows
on the way to it. What is stored makes no difference: tapes with the same endless tape around the
head have the same windows. -/
theorem window_edits_ofString (content : String) (edits : List TapeEdit) :
    let tape := edits.foldl edit (ofString content)
    let endless := edits.foldl EndlessTape.edit (EndlessTape.ofString content)
    (∀ width < windowBound,
      (tape.window width).length = width ∧
      (∀ j < width, (tape.window width).toList[j]? =
        some (endless.cells (endless.position - (width / 2 : Nat) + j))) ∧
      (1 ≤ width → (tape.window width).toList[width / 2]? = some tape.head) ∧
      (tape.headIndex < 2 ^ 62 → tape.signedWindow? width = some (tape.window width))) ∧
    (∀ i, i < endless.position - tape.headIndex ∨
        endless.position - tape.headIndex + tape.size ≤ i → endless.cells i = Alphabet.blank) ∧
    ∀ (otherContent : String) (otherEdits : List TapeEdit),
      let other := otherEdits.foldl edit (ofString otherContent)
      let others := otherEdits.foldl EndlessTape.edit (EndlessTape.ofString otherContent)
      (∀ i, others.cells (others.position + i) = endless.cells (endless.position + i)) →
        ∀ width, other.window width = tape.window width := by
  intro tape endless
  obtain ⟨first, last, shows⟩ :
      ∃ first last, tape.Shows first last endless.cells endless.position :=
    exists_shows_edits content edits
  refine ⟨?_, ?_, ?_⟩
  · intro width small
    have shown := tape.toList_window small
    have cell : ∀ j < width, (tape.window width).toList[j]? =
        some (endless.cells (endless.position - (width / 2 : Nat) + j)) := by
      intro j inside
      rw [shown, List.getElem?_map, List.getElem?_range inside, Option.map_some, shows.around_eq]
      congr 2
      omega
    refine ⟨?_, cell, ?_, tape.signedWindow?_eq_some small⟩
    · rw [← String.length_toList, shown, List.length_map, List.length_range]
    · intro positive
      rw [cell _ (by omega), Int.sub_add_cancel, shows.cell_position]
  · intro i outside
    have head := shows.head_eq
    have stored := shows.last_eq
    exact shows.blank_outside (by omega)
  · intro otherContent otherEdits other others alike width
    obtain ⟨otherFirst, otherLast, otherShows⟩ :
        ∃ first last, other.Shows first last others.cells others.position :=
      exists_shows_edits otherContent otherEdits
    apply window_congr
    funext places
    rw [otherShows.around_eq, alike, shows.around_eq]

/-- A blank that was come upon and one that was part of the content are the same, and so is whatever
is stored behind the content. -/
theorem window_edits_ofString_blanks :
    let left := [TapeEdit.move .left]
    let back := [TapeEdit.move .right, .move .right, .move .right, .move .left, .move .left,
      .move .left]
    let grown := left.foldl edit (ofString "AB")
    let longer := back.foldl edit (ofString " AB")
    5 < windowBound ∧ grown.headIndex < 2 ^ 62 ∧ grown.size ≠ longer.size ∧
    grown.signedWindow? 5 = some (grown.window 5) ∧ (grown.window 5).length = 5 ∧
    longer.window 5 = grown.window 5 := by
  intro left back grown longer
  obtain ⟨shown, -, alike⟩ := window_edits_ofString "AB" left
  have small : 5 < windowBound := by decide
  have near : grown.headIndex < 2 ^ 62 := by decide
  obtain ⟨wide, -, -, signed⟩ := shown 5 small
  refine ⟨small, near, by decide, signed near, wide, alike " AB" back ?_ 5⟩
  intro i
  -- Both heads are at the left end, on a blank before the same content.
  change laidOut [' ', 'A', 'B'] (0 + i) = laidOut ['A', 'B'] (-1 + i)
  rw [Int.zero_add, Int.add_comm, ← Int.sub_eq_add_neg]
  rcases Int.lt_trichotomy i 0 with before | rfl | after
  · rw [laidOut, if_pos before, laidOut, if_pos (by omega)]
  · rfl
  · have index : i.toNat = (i - 1).toNat + 1 := by omega
    rw [laidOut, if_neg (by omega), laidOut, if_neg (by omega), index]
    rfl

end TuringScript.Tape
