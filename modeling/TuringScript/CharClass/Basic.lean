import TuringScript.Alphabet

/-!
# Character classes

A field of a rule stands for a sequence of alternatives. A bare token spells them out; a bracketed
class lists them or names the complement of a list. The kind of bracket is the channel in which the
class advances when its rule line is expanded.
-/
namespace TuringScript

/-- Classes of one channel advance in lockstep, classes of different channels independently. -/
inductive Channel where
  | square
  | curly
  deriving DecidableEq, Repr

namespace Channel

/-- The fastest-moving channel comes first. -/
def all : List Channel := [.square, .curly]

def ofOpening? : Char → Option Channel
  | '[' => some .square
  | '{' => some .curly
  | _ => none

def opening : Channel → Char
  | .square => '['
  | .curly => '{'

def closing : Channel → Char
  | .square => ']'
  | .curly => '}'

theorem ofOpening?_opening (channel : Channel) : ofOpening? channel.opening = some channel := by
  cases channel <;> rfl

end Channel

/-- One alternative of a class. It is `literal` when it was escaped or comes out of a range. -/
structure Alternative where
  char : Char
  literal : Bool
  deriving DecidableEq, Repr

/-- The tape symbol an alternative stands for: a space marker that is not literal is the blank. -/
def Alternative.symbol (alternative : Alternative) : Char :=
  if !alternative.literal && alternative.char = Alphabet.spaceMarker then Alphabet.blank
  else alternative.char

/-- A class either lists its alternatives or excludes characters from the alphabet. -/
inductive Members where
  | listed (items : List Alternative)
  | complement (excluded : List Char)
  deriving DecidableEq, Repr

/-- A class without a channel is a bare token. -/
structure CharClass where
  channel : Option Channel
  members : Members
  deriving DecidableEq, Repr

namespace CharClass

def isNegated (charClass : CharClass) : Bool :=
  match charClass.members with
  | .listed _ => false
  | .complement _ => true

/-- A complement runs through the alphabet in rank order, each character taken literally. -/
def alternatives (charClass : CharClass) : List Alternative :=
  match charClass.members with
  | .listed items => items
  | .complement excluded => (Alphabet.chars.filter (· ∉ excluded)).map (⟨·, true⟩)

def size (charClass : CharClass) : Nat :=
  match charClass.members with
  | .listed items => items.length
  | .complement excluded => Alphabet.chars.countP (· ∉ excluded)

def isEmpty (charClass : CharClass) : Bool := charClass.size == 0

theorem size_eq_length (charClass : CharClass) :
    charClass.size = charClass.alternatives.length := by
  cases members : charClass.members with
  | listed items => simp [size, alternatives, members]
  | complement excluded => simp [size, alternatives, members, List.countP_eq_length_filter]

end CharClass
end TuringScript
