import TuringScript.Alphabet
import TuringScript.Rule

/-!
# Tapes

A tape has no end on either side, but only the cells the head has been over are stored, and at
least one. They are held as the cell under the head and the cells on either side of it, nearest
first; stepping past a side meets a blank cell.
-/
namespace TuringScript

structure Tape where
  left : List Char
  head : Char
  right : List Char
  deriving DecidableEq, Repr

namespace Tape

def blank : Tape := ⟨[], Alphabet.blank, []⟩

/-- One cell for each character, with the head on the first one. -/
def ofString (content : String) : Tape :=
  match content.toList with
  | [] => blank
  | first :: rest => ⟨[], first, rest⟩

def cells (tape : Tape) : List Char := tape.left.reverse ++ tape.head :: tape.right

/-- The stored cells from left to right. -/
def contents (tape : Tape) : String := String.ofList tape.cells

/-- The index of the head among the stored cells. -/
def headIndex (tape : Tape) : Nat := tape.left.length

def size (tape : Tape) : Nat := tape.cells.length

def isEmpty (tape : Tape) : Bool := tape.cells.isEmpty

def write (tape : Tape) (symbol : Char) : Tape := { tape with head := symbol }

def moveLeft (tape : Tape) : Tape :=
  match tape.left with
  | [] => ⟨[], Alphabet.blank, tape.head :: tape.right⟩
  | nearest :: left => ⟨left, nearest, tape.head :: tape.right⟩

def moveRight (tape : Tape) : Tape :=
  match tape.right with
  | [] => ⟨tape.head :: tape.left, Alphabet.blank, []⟩
  | nearest :: right => ⟨tape.head :: tape.left, nearest, right⟩

def move (tape : Tape) : Direction → Tape
  | .left => tape.moveLeft
  | .right => tape.moveRight
  | .stay => tape

/-! ### Windows -/

/-- Widths from here on do not fit a signed 64-bit number. -/
def windowBound : Nat := 0x8000000000000000

/-- The given number of cells around the head, half of them before it. Cells that are not stored
are blank. A width that is out of bounds shows nothing. -/
def window (tape : Tape) (width : Nat) : String :=
  if windowBound ≤ width then ""
  else
    let cells := tape.cells.toArray
    let start : Int := (tape.headIndex : Int) - (width / 2 : Nat)
    String.ofList ((List.range width).map fun (offset : Nat) =>
      let index := start + offset
      if index < 0 then Alphabet.blank else cells[index.toNat]?.getD Alphabet.blank)

/-! ### Cells and head -/

theorem headIndex_moveRight (tape : Tape) : tape.moveRight.headIndex = tape.headIndex + 1 := by
  unfold moveRight
  split <;> rfl

theorem headIndex_moveLeft (tape : Tape) : tape.moveLeft.headIndex = tape.headIndex - 1 := by
  unfold moveLeft headIndex
  split <;> simp_all

theorem size_eq (tape : Tape) : tape.size = tape.left.length + 1 + tape.right.length := by
  simp [size, cells]
  omega

theorem headIndex_lt_size (tape : Tape) : tape.headIndex < tape.size := by
  rw [size_eq, headIndex]
  omega

end Tape
end TuringScript
