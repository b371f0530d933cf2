import TuringScript.Storage.Loading

/-!
# Catalogue

The built-in programs. A program names itself and suggests an input tape in comments of the form
key, colon, value, and can be asked for by its index or by its name.
-/
namespace TuringScript

structure BuiltIn where
  index : Nat
  name : String
  tape : String
  text : String
  stateCount : Nat
  transitionCount : Nat
  deriving DecidableEq, Repr

namespace Catalogue

/-! ### Texts -/

def ofLines (lines : List String) : String := String.join (lines.map (· ++ "\n"))

def binaryIncrement : String := ofLines [
  "# name: Binary Increment",
  "# tape: 1011",
  "# Adds one to a binary number. The head starts on the most significant digit.",
  "(0,[01],0,[01],>)",
  "(0,-,1,-,<)",
  "(1,1,1,0,<)",
  "(1,0,H,1,-)",
  "(1,-,H,1,-)"]

def bitInverter : String := ofLines [
  "# name: Bit Inverter",
  "# tape: 0110",
  "# Flips every bit, pairing each read digit with the digit written in the same position.",
  "(0,[01],0,[10],>)",
  "(0,-,H,-,<)"]

def unaryAddition : String := ofLines [
  "# name: Unary Addition",
  "# tape: 111+11",
  "# Joins two unary numbers by filling the '+' and erasing the last mark.",
  "([01],1,[01],1,>)",
  "(0,+,1,1,>)",
  "(1,-,2,-,<)",
  "(2,1,H,-,-)"]

def busyBeaver : String := ofLines [
  "# name: Busy Beaver 2",
  "# tape:",
  "# The two-state busy beaver: writes four marks in six steps, starting on a blank tape.",
  "(0,-,B,1,>)",
  "(0,1,B,1,<)",
  "(B,-,0,1,<)",
  "(B,1,H,1,>)"]

def texts : List String := [binaryIncrement, bitInverter, unaryAddition, busyBeaver]

/-! ### Entries -/

/-- The value of the first comment that gives one for the key. -/
def header? (text key : String) : Option String :=
  (Text.lines text.toList).findSome? fun line => do
    let comment ← ['#'].isPrefixOf? line
    let rest ← key.toList.isPrefixOf? (Text.trim comment)
    let value ← [':'].isPrefixOf? rest
    return String.ofList (Text.trim value)

/-- The entry of a text, if it can be read. -/
def builtIn? (index : Nat) (text : String) : Option BuiltIn := do
  let table ← (loadText text).toOption
  return {
    index := index
    name := (header? text "name").getD ("Program " ++ toString (index + 1))
    tape := (header? text "tape").getD ""
    text := text
    stateCount := table.stateCount
    transitionCount := table.size }

def entries : List BuiltIn := (texts.mapIdx builtIn?).filterMap id

/-- A machine with the program's rules and its suggested tape. -/
def machine (program : BuiltIn) : Machine :=
  (Machine.empty.addRules (Dialect.standard.read program.text).rules).setTape program.tape

/-! ### Queries -/

def names : List String := entries.map BuiltIn.name

def byIndex (index : Nat) : Except LoadError BuiltIn :=
  match entries[index]? with
  | some program => .ok program
  | none => .error (.unknownIndex index)

/-- ASCII letters match in either case. -/
def byName (name : String) : Except LoadError BuiltIn :=
  match entries.find? fun program => program.name.toLower = name.toLower with
  | some program => .ok program
  | none => .error (.unknownName name)

def occursIn (part : List Char) : List Char → Bool
  | [] => part.isEmpty
  | text@(_ :: rest) => part.isPrefixOf text || occursIn part rest

/-- The indices of the programs whose name contains the query, in either case. All names are ASCII
and none has a 'k', the one ASCII letter with a capital elsewhere, so no other letter of a query
needs folding. -/
def search (query : String) : List Nat :=
  (entries.filter fun program =>
    occursIn query.toLower.toList program.name.toLower.toList).map BuiltIn.index

end Catalogue
end TuringScript
