import TuringScript.Proofs.Tape.Endless

/-!
# Editing a tape

Writes and moves, one after another, done to a tape and to an endless one with the same content. The
stored cells stay a window on the endless tape, and the window reaches exactly from the leftmost to
the rightmost of the positions that held the content or came under the head.
-/
namespace TuringScript

/-- A call that changes a tape or takes its head elsewhere. -/
inductive TapeEdit where
  | write (symbol : Char)
  | move (direction : Direction)
  deriving DecidableEq, Repr

def Tape.edit (tape : Tape) : TapeEdit → Tape
  | .write symbol => tape.write symbol
  | .move direction => tape.move direction

/-- A tape without ends, and a position on it that is never shifted. -/
structure EndlessTape where
  cells : Int → Char
  position : Int

namespace EndlessTape

/-- The content from position zero on, with the head at its start. -/
def ofString (content : String) : EndlessTape := ⟨Tape.laidOut content.toList, 0⟩

def edit (endless : EndlessTape) : TapeEdit → EndlessTape
  | .write symbol =>
    { endless with cells := Function.update endless.cells endless.position symbol }
  | .move direction => { endless with position := endless.position + direction.offset }

/-- The positions of the head after each of the edits. -/
def visited (endless : EndlessTape) : List TapeEdit → List Int
  | [] => []
  | edit :: edits => (endless.edit edit).position :: (endless.edit edit).visited edits

end EndlessTape

namespace Tape
namespace Shows

variable {tape : Tape} {first last : Int}

/-! ### What a window tells -/

section Reading

variable {cells : Int → Char} {position : Int} (shows : tape.Shows first last cells position)
include shows

/-- The stored cells are the part of the endless tape that the window shows. -/
theorem cells_eq : tape.cells = (List.range tape.size).map fun (i : Nat) => cells (first + i) := by
  apply List.ext_getElem
  · simp only [size, List.length_map, List.length_range]
  · intro i stored inRange
    have index : (first + i - first).toNat = i := by omega
    rw [List.getElem_map, List.getElem_range, ← shows.cell_eq, cellAt, if_neg (by omega), index,
      List.getElem?_eq_getElem stored, Option.getD_some]

/-- Nothing was written beyond the window. -/
theorem blank_outside {i : Int} (outside : i < first ∨ last < i) : cells i = Alphabet.blank := by
  have stored := shows.last_eq
  rw [← shows.cell_eq, cellAt]
  rcases outside with before | after
  · exact if_pos before
  · have beyond : tape.cells.length ≤ (i - first).toNat := by
      change tape.size ≤ _
      omega
    rw [List.getElem?_eq_none beyond, Option.getD_none, ite_self]

end Reading

/-! ### Edits -/

variable {endless : EndlessTape}

/-- An edit extends the window to where it takes the head, if that is not inside already. -/
theorem edit (shows : tape.Shows first last endless.cells endless.position) (edit : TapeEdit) :
    (tape.edit edit).Shows (min first (endless.edit edit).position)
      (max last (endless.edit edit).position) (endless.edit edit).cells
      (endless.edit edit).position := by
  cases edit with
  | write symbol =>
    -- Writing takes the head nowhere, and the head is inside the window.
    have lower : min first (endless.edit (.write symbol)).position = first :=
      min_eq_left shows.first_le
    have upper : max last (endless.edit (.write symbol)).position = last :=
      max_eq_left shows.le_last
    rw [lower, upper]
    exact shows.write symbol
  | move direction => exact shows.move direction

/-- Any number of edits, by induction along them. -/
theorem edits (shows : tape.Shows first last endless.cells endless.position)
    (edits : List TapeEdit) :
    (edits.foldl Tape.edit tape).Shows ((endless.visited edits).foldl min first)
      ((endless.visited edits).foldl max last) (edits.foldl EndlessTape.edit endless).cells
      (edits.foldl EndlessTape.edit endless).position := by
  induction edits generalizing tape first last endless with
  | nil => exact shows
  | cons edit edits ih => exact ih (shows.edit edit)

end Shows

/-- A growing tape is a window on an endless one. It reaches from the leftmost to the rightmost of
the positions of the content and those that were visited, it shows what is on the endless tape
there, and all the rest of the endless tape is blank. -/
theorem edits_ofString_window (content : String) (edits : List TapeEdit) :
    let tape := edits.foldl edit (ofString content)
    let endless := edits.foldl EndlessTape.edit (EndlessTape.ofString content)
    let visited := (EndlessTape.ofString content).visited edits
    let first : Int := visited.foldl min 0
    let last : Int := visited.foldl max (max content.length 1 - 1)
    (tape.headIndex : Int) = endless.position - first ∧ tape.headIndex < tape.size ∧
    (tape.size : Int) = last - first + 1 ∧
    tape.contents.toList = (List.range tape.size).map (fun (i : Nat) => endless.cells (first + i)) ∧
    tape.head = endless.cells endless.position ∧ tape.isEmpty = false ∧
    ∀ i, i < first ∨ last < i → endless.cells i = Alphabet.blank := by
  intro tape endless visited first last
  have initial : (ofString content).Shows 0 (max content.length 1 - 1)
      (EndlessTape.ofString content).cells (EndlessTape.ofString content).position :=
    Shows.ofString content
  have shows : tape.Shows first last endless.cells endless.position := initial.edits edits
  have inside : tape.headIndex < tape.size := headIndex_lt_size tape
  have head := shows.head_eq
  have stored := shows.last_eq
  refine ⟨by omega, inside, by omega, ?_, shows.cell_position.symm, ?_, ?_⟩
  · rw [contents, String.toList_ofList]
    exact shows.cells_eq
  · have filled : tape.cells ≠ [] := List.ne_nil_of_length_pos (Nat.zero_lt_of_lt inside)
    rw [isEmpty, List.isEmpty_eq_false_iff]
    exact filled
  · intro i outside
    exact shows.blank_outside outside

end Tape
end TuringScript
