import TuringScript.Text.UpperCase
import TuringScript.Text.WhiteSpace

/-!
# Dialects

The choices in reading rule text: whether lines are folded to upper case, and which character
begins a comment. The marker is compared with the folded line.
-/
namespace TuringScript

structure Dialect where
  ignoreCase : Bool := true
  commentMarker : Char := '#'
  deriving DecidableEq, Repr

namespace Dialect

def standard : Dialect := {}

def fold (dialect : Dialect) (line : String) : List Char :=
  if dialect.ignoreCase then Text.upperCaseAll line.toList else line.toList

/-- Whether a folded line is a comment or all white space. -/
def skips (dialect : Dialect) (text : List Char) : Bool :=
  text.head? == some dialect.commentMarker || text.all Text.isWhiteSpace

end Dialect
end TuringScript
