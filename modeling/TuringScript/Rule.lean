/-!
# Rules

A rule tells what a machine in some state does when it reads some symbol. Key and transition are
the two halves of a rule; the line says which line of rule text it comes from.
-/
namespace TuringScript

inductive Direction where
  | left
  | right
  | stay
  deriving DecidableEq, Repr

namespace Direction

def glyph : Direction → Char
  | .left => '<'
  | .right => '>'
  | .stay => '-'

def ofGlyph? : Char → Option Direction
  | '<' => some .left
  | '>' => some .right
  | '-' => some .stay
  | _ => none

theorem ofGlyph?_glyph (direction : Direction) : ofGlyph? direction.glyph = some direction := by
  cases direction <;> rfl

end Direction

structure Key where
  state : String
  symbol : Char
  deriving DecidableEq, Repr

structure Transition where
  nextState : String
  write : Char
  direction : Direction
  deriving DecidableEq, Repr

structure Rule where
  key : Key
  transition : Transition
  line : Nat
  deriving DecidableEq, Repr

end TuringScript
