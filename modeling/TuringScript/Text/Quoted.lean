import TuringScript.Text.Printable

/-!
# Quoted characters

A character between single quotes, as log events show it. What cannot be shown as it stands is
written by its short escape or by its code point in hexadecimal.
-/
namespace TuringScript.Text

/-- The fewest lower-case hexadecimal digits. -/
def hexadecimal (code : Nat) : String := String.ofList (Nat.toDigits 16 code)

def escaped (c : Char) : String :=
  if c = '\x00' then "\\0"
  else if c = '\t' then "\\t"
  else if c = '\n' then "\\n"
  else if c = '\r' then "\\r"
  else if c = '\'' then "\\'"
  else if c = '\\' then "\\\\"
  else if isExtender c || !isPrintable c then
    "\\u\x7b" ++ hexadecimal c.toNat ++ "\x7d"
  else c.toString

def quoted (c : Char) : String := "'" ++ escaped c ++ "'"

end TuringScript.Text
