import TuringScript.Json.Printer
import TuringScript.Json.Reader
import TuringScript.Machine.Basic

/-!
# JSON forms

An enumeration is written as the name of its variant and also read from an object that gives the
name a null. A record is written as an object and read from one in any order; other fields are
ignored, but each of its own must be there exactly once. It is also read from the array of its
values.
-/
namespace TuringScript.Json

class Form (α : Type) where
  toJson : α → Json
  ofJson? : Json → Option α

export Form (toJson ofJson?)

/-! ### Shapes -/

/-- The values of the named fields, in the order of the names. -/
def fieldValues? (names : List String) : Json → Option (List Json)
  | .array items => if items.length = names.length then some items else none
  | .object fields =>
    if fields.any (·.1.isNone) then none
    else names.mapM fun name =>
      match fields.filter (·.1 == some name) with
      | [(_, value)] => some value
      | _ => none
  | _ => none

def variantName? : Json → Option String
  | .string name => name
  | .object [(name, .null)] => name
  | _ => none

def variant? (variants : List α) (name : α → String) (json : Json) : Option α := do
  let given ← variantName? json
  variants.find? (name · = given)

/-! ### Forms -/

instance : Form String where
  toJson := ofString
  ofJson?
    | .string text => text
    | _ => none

instance : Form Char where
  toJson c := ofString c.toString
  ofJson?
    | .string (some text) =>
      match text.toList with
      | [c] => some c
      | _ => none
    | _ => none

def directionName : Direction → String
  | .left => "Left"
  | .right => "Right"
  | .stay => "Stay"

instance : Form Direction where
  toJson direction := ofString (directionName direction)
  ofJson? := variant? [.left, .right, .stay] directionName

instance : Form Halt where
  toJson halt := ofString halt.name
  ofJson? := variant? [.noRule, .stepLimit, .cancelled] Halt.name

instance : Form Status where
  toJson status := ofString status.name
  ofJson? := variant? [.ready, .running, .stopped] Status.name

instance : Form Key where
  toJson key := record [("state", toJson key.state), ("symbol", toJson key.symbol)]
  ofJson? json := do
    let [state, symbol] ← fieldValues? ["state", "symbol"] json | none
    return ⟨← ofJson? state, ← ofJson? symbol⟩

instance : Form Transition where
  toJson transition := record [
    ("next_state", toJson transition.nextState),
    ("write", toJson transition.write),
    ("direction", toJson transition.direction)]
  ofJson? json := do
    let [nextState, write, direction] ←
      fieldValues? ["next_state", "write", "direction"] json | none
    return ⟨← ofJson? nextState, ← ofJson? write, ← ofJson? direction⟩

/-- Reads the form of a value from a text. -/
def decode? (α : Type) [Form α] (text : String) : Option α := do
  let json ← read text
  ofJson? json

def encode [Form α] (value : α) : String := compact (toJson value)

end TuringScript.Json
