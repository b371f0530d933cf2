import TuringScript.CharClass.Basic

/-!
# Class cursors

A place in a class. In a listed class it is an index; in a complement it is a rank, and moving on
skips the excluded ranks. Past the last alternative the cursor stays at the end.
-/
namespace TuringScript

structure ClassCursor where
  source : CharClass
  position : Nat
  deriving DecidableEq, Repr

namespace ClassCursor

/-- The first rank from `start` on that is not excluded, or the size of the alphabet. -/
def nextIncluded (excluded : List Char) (start : Nat) : Nat :=
  start + ((Alphabet.chars.drop start).takeWhile (· ∈ excluded)).length

/-- The cursor at the first alternative. -/
def ofClass (source : CharClass) : ClassCursor :=
  match source.members with
  | .listed _ => ⟨source, 0⟩
  | .complement excluded => ⟨source, nextIncluded excluded 0⟩

def reset (cursor : ClassCursor) : ClassCursor := ofClass cursor.source

def atEnd (cursor : ClassCursor) : Bool :=
  match cursor.source.members with
  | .listed items => items.length ≤ cursor.position
  | .complement _ => Alphabet.size ≤ cursor.position

def next (cursor : ClassCursor) : ClassCursor :=
  if cursor.atEnd then cursor
  else match cursor.source.members with
    | .listed _ => { cursor with position := cursor.position + 1 }
    | .complement excluded =>
      { cursor with position := nextIncluded excluded (cursor.position + 1) }

/-- Moves on, and tells whether there was another alternative to move to. -/
def advance (cursor : ClassCursor) : Bool × ClassCursor :=
  (!cursor.next.atEnd, cursor.next)

def current? (cursor : ClassCursor) : Option Alternative :=
  match cursor.source.members with
  | .listed items => items[cursor.position]?
  | .complement _ => (Alphabet.charAt? cursor.position).map (⟨·, true⟩)

def symbol? (cursor : ClassCursor) : Option Char :=
  cursor.current?.map Alternative.symbol

/-- The alternative as it is spelled, for states and moves. -/
def char? (cursor : ClassCursor) : Option Char :=
  cursor.current?.map Alternative.char

end ClassCursor
end TuringScript
