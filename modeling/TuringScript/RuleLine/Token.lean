import TuringScript.CharClass.Basic

/-!
# Tokens of a rule line

Blanks separate, key characters give a line its structure, and every other character belongs to a
run. The escape character takes the character after it into the run, whatever it is.
-/
namespace TuringScript.RuleLine

def isBlank (c : Char) : Bool := c == ' ' || c == '\t'

def isKey (c : Char) : Bool :=
  c == '(' || c == ')' || c == ',' || c == '[' || c == ']' || c == '{' || c == '}'

def skipBlanks (text : List Char) : List Char := text.dropWhile isBlank

/-- The longest run at the front of the text, and the text after it. -/
def scanRun : List Char → List Char × List Char
  | [] => ([], [])
  | '\\' :: c :: rest =>
    let (run, after) := scanRun rest
    ('\\' :: c :: run, after)
  | c :: rest =>
    if isBlank c || isKey c then ([], c :: rest)
    else
      let (run, after) := scanRun rest
      (c :: run, after)

/-- Takes escaped characters as they stand. An escape at the very end is kept. -/
def unescape : List Char → List Char
  | [] => []
  | '\\' :: c :: rest => c :: unescape rest
  | c :: rest => c :: unescape rest

theorem scanRun_append (text : List Char) : (scanRun text).1 ++ (scanRun text).2 = text := by
  fun_induction scanRun text <;> simp_all

end TuringScript.RuleLine
