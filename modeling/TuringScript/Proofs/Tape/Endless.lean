import Mathlib.Logic.Function.Basic
import Mathlib.Order.Lattice
import TuringScript.Tape

/-!
# Endless tapes

The stored cells of a tape are a window on a tape that is endless on both sides. The window is
given by the positions of its first and last cell; writing leaves it alone, and a move extends it
just as far as the new position of the head.
-/
namespace TuringScript

/-- How far a move takes the head to the right. -/
def Direction.offset : Direction → Int
  | .left => -1
  | .right => 1
  | .stay => 0

namespace Tape

/-- The cell at position `i` of the endless tape, when the first stored cell is at `first`. -/
def cellAt (tape : Tape) (first i : Int) : Char :=
  if i < first then Alphabet.blank else tape.cells[(i - first).toNat]?.getD Alphabet.blank

/-- The stored cells are those from `first` to `last`, the head is at `position`, and the endless
tape around them reads `cells`. -/
structure Shows (tape : Tape) (first last : Int) (cells : Int → Char) (position : Int) : Prop where
  head_eq : first + tape.headIndex = position
  last_eq : first + tape.size = last + 1
  cell_eq : ∀ i, tape.cellAt first i = cells i

/-- An endless tape with `content` from position zero on and blanks elsewhere. -/
def laidOut (content : List Char) (i : Int) : Char :=
  if i < 0 then Alphabet.blank else content[i.toNat]?.getD Alphabet.blank

/-! ### The stored cells as a list -/

theorem cells_ofString (content : String) :
    (ofString content).cells =
      if content.toList = [] then [Alphabet.blank] else content.toList := by
  unfold ofString
  split <;> simp_all [cells, blank]

theorem headIndex_ofString (content : String) : (ofString content).headIndex = 0 := by
  unfold ofString
  split <;> rfl

theorem getElem?_cells_headIndex (tape : Tape) : tape.cells[tape.headIndex]? = some tape.head := by
  simp [cells, headIndex]

theorem cells_write_eq_set (tape : Tape) (symbol : Char) :
    (tape.write symbol).cells = tape.cells.set tape.headIndex symbol := by
  simp [cells, write, headIndex]

/-- A step to the left of the first stored cell puts a blank before it. -/
theorem cells_moveLeft (tape : Tape) :
    tape.moveLeft.cells =
      if tape.headIndex = 0 then Alphabet.blank :: tape.cells else tape.cells := by
  rcases tape with ⟨_ | ⟨nearest, left⟩, head, right⟩ <;> simp [moveLeft, cells, headIndex]

/-- A step to the right of the last stored cell puts a blank after it. -/
theorem cells_moveRight (tape : Tape) :
    tape.moveRight.cells =
      if tape.headIndex + 1 = tape.size then tape.cells ++ [Alphabet.blank] else tape.cells := by
  rw [size_eq, headIndex]
  rcases tape with ⟨left, head, _ | ⟨nearest, right⟩⟩ <;> simp [moveRight, cells]

/-! ### What is shown -/

/-- A blank stored before the first cell shows what was there already. -/
theorem cellAt_blank_cons (tape grown : Tape) (grows : grown.cells = Alphabet.blank :: tape.cells)
    (first : Int) : grown.cellAt (first - 1) = tape.cellAt first := by
  funext i
  unfold cellAt
  rw [grows]
  -- Before the new cell, at it, and after it, where every index is one more than it was.
  by_cases before : i < first - 1
  · rw [if_pos before, if_pos (by omega)]
  · rw [if_neg before]
    by_cases added : i < first
    · have zero : (i - (first - 1)).toNat = 0 := by omega
      simp [if_pos added, zero]
    · have later : (i - (first - 1)).toNat = (i - first).toNat + 1 := by omega
      simp [if_neg added, later]

/-- A blank stored after the last cell shows what was there already. -/
theorem cellAt_append_blank (tape grown : Tape)
    (grows : grown.cells = tape.cells ++ [Alphabet.blank]) (first : Int) :
    grown.cellAt first = tape.cellAt first := by
  funext i
  unfold cellAt
  rw [grows]
  split
  · rfl
  -- The new cell is the first of those that were read as blank for lack of a stored one.
  · rcases Nat.lt_trichotomy (i - first).toNat tape.cells.length with inside | added | outside
    · rw [List.getElem?_append_left inside]
    · simp [added]
    · rw [List.getElem?_eq_none (by rw [List.length_append, List.length_singleton]; omega),
        List.getElem?_eq_none (by omega)]

namespace Shows

variable {tape : Tape} {first last position : Int} {cells : Int → Char}

theorem ofString (content : String) :
    (Tape.ofString content).Shows 0 (max content.length 1 - 1) (laidOut content.toList) 0 where
  head_eq := by simp [headIndex_ofString]
  last_eq := by
    rw [size, cells_ofString, ← String.length_toList]
    split
    next empty => simp [empty]
    next filled =>
      have positive := List.length_pos_iff.mpr filled
      omega
  cell_eq i := by
    unfold cellAt laidOut
    rw [cells_ofString, Int.sub_zero]
    split
    · rfl
    · split
      -- An empty content is stored as a single blank.
      next empty => rcases i.toNat with _ | n <;> simp [empty]
      · rfl

theorem first_le (shows : tape.Shows first last cells position) : first ≤ position := by
  have head := shows.head_eq
  omega

theorem le_last (shows : tape.Shows first last cells position) : position ≤ last := by
  have head := shows.head_eq
  have stored := shows.last_eq
  have inside := headIndex_lt_size tape
  omega

theorem cell_position (shows : tape.Shows first last cells position) :
    cells position = tape.head := by
  rw [← shows.cell_eq, cellAt, if_neg (not_lt.mpr shows.first_le),
    show (position - first).toNat = tape.headIndex by have := shows.head_eq; omega,
    getElem?_cells_headIndex, Option.getD_some]

/-- Writing changes the endless tape at the head only. -/
theorem write (shows : tape.Shows first last cells position) (symbol : Char) :
    (tape.write symbol).Shows first last (Function.update cells position symbol) position where
  head_eq := shows.head_eq
  last_eq := by
    have stored := shows.last_eq
    rwa [size, cells_write_eq_set, List.length_set]
  cell_eq i := by
    have head := shows.head_eq
    have inside := headIndex_lt_size tape
    unfold cellAt
    rw [cells_write_eq_set]
    by_cases here : i = position
    · subst here
      have index : (i - first).toNat = tape.headIndex := by omega
      rw [Function.update_self, if_neg (not_lt.mpr shows.first_le), index,
        List.getElem?_set_self inside, Option.getD_some]
    · rw [Function.update_of_ne here, ← shows.cell_eq, cellAt]
      split
      · rfl
      · rw [List.getElem?_set_ne (by omega)]

theorem moveLeft (shows : tape.Shows first last cells position) :
    tape.moveLeft.Shows (min first (position - 1)) last cells (position - 1) := by
  have head := shows.head_eq
  have stored := shows.last_eq
  have moved := headIndex_moveLeft tape
  have grown := cells_moveLeft tape
  -- Only at the first stored cell does the window grow.
  by_cases edge : tape.headIndex = 0
  · rw [if_pos edge] at grown
    rw [show min first (position - 1) = first - 1 by omega]
    refine ⟨by omega, ?_, fun i => ?_⟩
    · rw [size, grown, List.length_cons, ← size]
      omega
    · rw [cellAt_blank_cons tape _ grown, shows.cell_eq]
  · rw [if_neg edge] at grown
    rw [show min first (position - 1) = first by omega]
    refine ⟨by omega, ?_, fun i => ?_⟩
    · rwa [size, grown]
    · rw [cellAt, grown]
      exact shows.cell_eq i

theorem moveRight (shows : tape.Shows first last cells position) :
    tape.moveRight.Shows first (max last (position + 1)) cells (position + 1) := by
  have head := shows.head_eq
  have stored := shows.last_eq
  have inside := headIndex_lt_size tape
  have moved := headIndex_moveRight tape
  have grown := cells_moveRight tape
  -- Only at the last stored cell does the window grow.
  by_cases edge : tape.headIndex + 1 = tape.size
  · rw [if_pos edge] at grown
    rw [show max last (position + 1) = last + 1 by omega]
    refine ⟨by omega, ?_, fun i => ?_⟩
    · rw [size, grown, List.length_append, ← size, List.length_singleton]
      omega
    · rw [cellAt_append_blank tape _ grown, shows.cell_eq]
  · rw [if_neg edge] at grown
    rw [show max last (position + 1) = last by omega]
    refine ⟨by omega, ?_, fun i => ?_⟩
    · rwa [size, grown]
    · rw [cellAt, grown]
      exact shows.cell_eq i

/-- A move shows the same endless tape and stores no more of it than the head has come to. -/
theorem move (shows : tape.Shows first last cells position) (direction : Direction) :
    (tape.move direction).Shows (min first (position + direction.offset))
      (max last (position + direction.offset)) cells (position + direction.offset) := by
  have lower := shows.first_le
  have upper := shows.le_last
  cases direction with
  | left =>
    have unchanged : max last (position + Direction.left.offset) = last := by
      simp only [Direction.offset]
      omega
    rw [unchanged]
    exact shows.moveLeft
  | right =>
    have unchanged : min first (position + Direction.right.offset) = first := by
      simp only [Direction.offset]
      omega
    rw [unchanged]
    exact shows.moveRight
  | stay =>
    have same : position + Direction.stay.offset = position := by simp [Direction.offset]
    rw [same, min_eq_left lower, max_eq_left upper]
    exact shows

end Shows
end Tape
end TuringScript
