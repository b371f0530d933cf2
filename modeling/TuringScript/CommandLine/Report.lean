import TuringScript.Catalogue
import TuringScript.Json.Codec
import TuringScript.Text.Column

/-!
# Reports

The lines that the command line prints: a trace of the tape, a summary of the run, and the list of
built-in programs.
-/
namespace TuringScript.CommandLine

/-- Ends every line with a newline. -/
def joinLines (lines : List String) : String :=
  String.join (lines.map (· ++ "\n"))

/-! ### Trace -/

def traceLine (width : Nat) (machine : Machine) : String :=
  Text.alignRight 6 (toString machine.steps) ++ " " ++ Text.alignRight 8 machine.state ++
    " |" ++ machine.tape.window width ++ "|"

/-! ### Summary -/

/-- What is told about a run that has ended. -/
structure RunSummary where
  state : String
  steps : Nat
  halt : Halt
  tape : String
  head : Nat
  debugLine : Option Nat
  deriving DecidableEq, Repr

namespace RunSummary

def ofMachine (halt : Halt) (machine : Machine) : RunSummary where
  state := machine.state
  steps := machine.steps
  halt := halt
  tape := machine.tape.contents
  head := machine.tape.headIndex
  debugLine := machine.debugLine

def lines (summary : RunSummary) : List String :=
  ["Halted: " ++ summary.halt.name,
    "State:  " ++ summary.state,
    "Steps:  " ++ toString summary.steps,
    "Tape:   '" ++ summary.tape ++ "'"]

def toJson (summary : RunSummary) : Json := .record [
  ("state", .ofString summary.state),
  ("steps", .ofNat summary.steps),
  ("halt", Json.toJson summary.halt),
  ("tape", .ofString summary.tape),
  ("head", .ofNat summary.head),
  ("debug_line", .ofOption (summary.debugLine.map .ofNat))]

end RunSummary

/-- Turns a summary into the text of a JSON value, or tells why it cannot. -/
abbrev JsonPrinter := RunSummary → Except String String

def indentedJson : JsonPrinter := fun summary => .ok (summary.toJson.indented 0)

def reportLines (printer : JsonPrinter) (json : Bool) (summary : RunSummary) :
    Except String (List String) :=
  if json then (printer summary).map ([·]) else .ok summary.lines

/-! ### Catalogue -/

def listLine (program : BuiltIn) : String :=
  Text.alignRight 2 (toString program.index) ++ "  " ++ Text.alignLeft 20 program.name ++
    " tape: " ++ Text.alignLeft 10 ("'" ++ program.tape ++ "'") ++
    " rules: " ++ toString program.transitionCount

def catalogueLines : List String := Catalogue.entries.map listLine

end TuringScript.CommandLine
