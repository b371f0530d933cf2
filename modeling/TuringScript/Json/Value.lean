/-!
# JSON values

A value keeps numbers as they are spelled and the fields of an object in the order in which they
stand, repeated names included. A string that names half a surrogate pair holds no text.
-/
namespace TuringScript

inductive Json where
  | null
  | bool (value : Bool)
  | number (numeral : String)
  | string (text : Option String)
  | array (items : List Json)
  | object (fields : List (Option String × Json))

namespace Json

def ofString (text : String) : Json := .string (some text)

def ofNat (value : Nat) : Json := .number (toString value)

def ofOption (value : Option Json) : Json := value.getD .null

def record (fields : List (String × Json)) : Json :=
  .object (fields.map fun (name, value) => (some name, value))

end Json
end TuringScript
