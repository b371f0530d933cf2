/-!
# Alphabet

The ordered alphabet against which ranges and negated classes are resolved. A character's rank is
its position in the alphabet. Lower-case letters, the underscore, the tilde and the grave accent
have no rank.
-/
namespace TuringScript.Alphabet

/-- Listed in rank order, which is the order of code points. -/
def chars : List Char :=
  [' ', '!', '"', '#', '$', '%', '&', '\'', '(', ')', '*', '+', ',', '-', '.', '/',
   '0', '1', '2', '3', '4', '5', '6', '7', '8', '9', ':', ';', '<', '=', '>', '?',
   '@', 'A', 'B', 'C', 'D', 'E', 'F', 'G', 'H', 'I', 'J', 'K', 'L', 'M', 'N', 'O',
   'P', 'Q', 'R', 'S', 'T', 'U', 'V', 'W', 'X', 'Y', 'Z', '[', '\\', ']', '^', '{', '|', '}']

def size : Nat := chars.length

def rank? (symbol : Char) : Option Nat := chars.idxOf? symbol

def charAt? (rank : Nat) : Option Char := chars[rank]?

/-- The symbol of a cell that nothing was written to. -/
def blank : Char := ' '

/-- Stands for the blank where a tape symbol is meant. -/
def spaceMarker : Char := '-'

theorem size_eq : size = 66 := rfl

theorem chars_nodup : chars.Nodup := by decide

end TuringScript.Alphabet
