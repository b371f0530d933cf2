/-!
# Errors

What can be wrong with a rule line, with a source text, and with a program that is to be loaded.
Each error is its cause; the wording is in `message`.
-/
namespace TuringScript

/-- The five fields of a rule line, in the order in which they are written. -/
inductive Field where
  | startState
  | startSymbol
  | destState
  | destSymbol
  | move
  deriving DecidableEq, Repr

inductive Fault where
  | missing (field : Field)
  | malformed (field : Field)
  | missingComma
  | missingClosing
  | trailingData
  | unexpectedEnd
  | lengthMismatch
  | unreadable (reason : Option String)
  deriving DecidableEq, Repr

namespace Field

/-- The text of a field, which must not be left empty. -/
def present (field : Field) (text : Option α) : Except Fault α :=
  match text with
  | some text => .ok text
  | none => .error (.missing field)

/-- What a field's text means, if it means anything. -/
def wellFormed (field : Field) (reading : Option α) : Except Fault α :=
  match reading with
  | some value => .ok value
  | none => .error (.malformed field)

end Field

def Fault.message : Fault → String
  | .missing .startState => "Error reading the start state"
  | .missing .startSymbol => "Error reading the start symbol"
  | .missing .destState => "Error reading the destination state"
  | .missing .destSymbol => "Error reading the symbol to write"
  | .missing .move => "Error reading the move to perform"
  | .malformed .startState => "The character class in the start state is malformed"
  | .malformed .startSymbol => "The start symbol field is malformed"
  | .malformed .destState => "The character class in the destination state is malformed"
  | .malformed .destSymbol => "The destination symbol field is malformed"
  | .malformed .move => "The move is invalid"
  | .missingComma => "Expected ',' as separator"
  | .missingClosing => "Expected ')' to close the rule"
  | .trailingData => "There are more than five fields"
  | .unexpectedEnd => "Unexpected end of rule"
  | .lengthMismatch => "The character classes in the rule have different lengths"
  | .unreadable _ => "Error reading from the stream"

/-- A fault and the line, counted from one, on which it was found. -/
structure ParseError where
  fault : Fault
  line : Nat
  deriving DecidableEq, Repr

def ParseError.message (error : ParseError) : String :=
  error.fault.message ++ " (line " ++ toString error.line ++ ")"

/-- The greatest size of a program, in bytes. -/
def maxProgramSize : Nat := 65536

inductive LoadError where
  | parse (error : ParseError)
  | oversized (bytes : Nat)
  | unknownIndex (index : Nat)
  | unknownName (name : String)
  | noProgram
  | unreadableFile (path reason : String)
  | unreadableDirectory (path reason : String)
  deriving DecidableEq, Repr

namespace LoadError

inductive Category where
  | parsing
  | validation
  | file
  deriving DecidableEq, Repr

def category : LoadError → Category
  | .parse _ => .parsing
  | .oversized _ | .unknownIndex _ | .unknownName _ | .noProgram => .validation
  | .unreadableFile _ _ | .unreadableDirectory _ _ => .file

def Category.heading : Category → String
  | .parsing => "Program parsing error: "
  | .validation => "Program validation error: "
  | .file => "File error: "

def reason : LoadError → String
  | .parse error => error.message
  | .oversized bytes =>
    "Program is " ++ toString bytes ++ " bytes, the limit is " ++ toString maxProgramSize
  | .unknownIndex index => "Program index " ++ toString index ++ " out of range"
  | .unknownName name => "Program '" ++ name ++ "' not found"
  | .noProgram => "Either --program or --builtin is required"
  | .unreadableFile path reason => "Failed to read file " ++ path ++ ": " ++ reason
  | .unreadableDirectory path reason => "Failed to read directory " ++ path ++ ": " ++ reason

def message (error : LoadError) : String := error.category.heading ++ error.reason

end LoadError
end TuringScript
