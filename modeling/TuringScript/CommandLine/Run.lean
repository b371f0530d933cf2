import TuringScript.CommandLine.Options
import TuringScript.CommandLine.Report
import TuringScript.Text.Numeral

/-!
# Runs by options

What is done for given options: the built-in programs are listed, or a machine is built, run and
reported on. The exit code is 1 for a program that cannot be had and for a summary that cannot be
printed.
-/
namespace TuringScript.CommandLine

/-- An exit code, the text printed, and the lines of diagnostics. -/
structure Outcome where
  code : Nat
  output : String
  diagnostics : List String
  deriving DecidableEq, Repr

/-! ### Building the machine -/

/-- A number asks for a built-in program by index, any other text by name. -/
def chooseBuiltIn (choice : String) : Except LoadError BuiltIn :=
  match Text.unsigned? choice with
  | some index => Catalogue.byIndex index
  | none => Catalogue.byName choice

def chooseMachine (storage : Storage) (options : Options) : Except LoadError Machine :=
  match options.program, options.builtin with
  | some path, _ => storage.loadMachine path
  | none, some choice => (chooseBuiltIn choice).map Catalogue.machine
  | none, none => .error .noProgram

/-- A state is folded as rule text is. -/
def foldState (state : String) : String := String.ofList (Dialect.standard.fold state)

def prepare (options : Options) (machine : Machine) : Machine :=
  let machine := (options.input.map machine.setTape).getD machine
  let machine := (options.state.map fun state =>
    machine.setInitialState (foldState state)).getD machine
  (options.limit.map machine.setLimit).getD machine

def buildMachine (storage : Storage) (options : Options) : Except LoadError Machine :=
  (chooseMachine storage options).map (prepare options)

/-! ### Running it -/

/-- What the listeners of a run collect, latest first. -/
structure Collected where
  lines : List String
  events : List Event

def tracer (width : Nat) : Listener Collected where
  respond notice machine collected :=
    match notice with
    | .started | .stepped =>
      ({ collected with lines := traceLine width machine :: collected.lines }, false)
    | .stopped _ => (collected, false)

def recorder : Listener Collected where
  respond notice machine collected :=
    ({ collected with events := .ofNotice machine notice :: collected.events }, false)

def level (options : Options) : Level :=
  match options.verbosity with
  | 0 => .warn
  | 1 => .info
  | 2 => .debug
  | _ => .trace

def listeners (options : Options) : List (Listener Collected) :=
  (if 2 ≤ options.verbosity then [recorder] else []) ++
    if options.trace then [tracer options.width] else []

def logLines (options : Options) (events : List Event) : List String :=
  (events.filter (·.isShownAt (level options))).map Event.text

def loadEvents (storage : Storage) (options : Options) : List Event :=
  (options.program.map storage.fileEvents).getD []

def errorLine : LoadError → String
  | .parse error =>
    "Parse error on line " ++ toString error.line ++ ": " ++ error.fault.message
  | error => error.message

/-- What was traced is printed already when the summary turns out not to be printable. -/
def Outcome.ofReport (shown diagnostics : List String) : Except String (List String) → Outcome
  | .ok lines => ⟨0, joinLines (shown ++ lines), diagnostics⟩
  | .error fault =>
    ⟨1, joinLines shown, diagnostics ++ ["Failed to serialize result: " ++ fault]⟩

/-- Nothing comes out of a run of `fuel` steps or more. -/
def execute (printer : JsonPrinter) (fuel : Nat) (storage : Storage) (options : Options) :
    Option Outcome :=
  if options.list then some ⟨0, joinLines catalogueLines, []⟩
  else
    let loaded := logLines options (loadEvents storage options)
    match buildMachine storage options with
    | .error error => some ⟨1, "", loaded ++ [errorLine error]⟩
    | .ok machine =>
      (machine.runWithin fuel (listeners options) ⟨[], []⟩).map fun (halt, machine, collected) =>
        .ofReport collected.lines.reverse (loaded ++ logLines options collected.events.reverse)
          (reportLines printer options.json (.ofMachine halt machine))

end TuringScript.CommandLine
