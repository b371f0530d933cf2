/-!
# Unsigned numerals

A decimal numeral of an unsigned 64-bit number: an optional plus sign and at least one ASCII
digit. Leading zeros are allowed, and a value that does not fit is no numeral.
-/
namespace TuringScript.Text

/-- One more than the greatest unsigned 64-bit number. -/
def wordBound : Nat := 0x10000000000000000

def digitsValue (digits : List Char) : Nat :=
  digits.foldl (fun value digit => 10 * value + (digit.toNat - '0'.toNat)) 0

def unsigned? (text : String) : Option Nat :=
  let digits := match text.toList with
    | '+' :: digits => digits
    | digits => digits
  if digits.isEmpty || !digits.all Char.isDigit then none
  else
    let value := digitsValue digits
    if value < wordBound then some value else none

end TuringScript.Text
