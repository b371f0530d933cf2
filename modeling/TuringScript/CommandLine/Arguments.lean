import TuringScript.CommandLine.Options
import TuringScript.Text.Numeral

/-!
# Arguments

The options that arguments spell out. A flag stands alone, a setting takes a value: the rest of its
own argument, with or without an equals sign after a letter, or else the next argument. An argument
that begins with a dash is no value, unless it is the dash alone. Nothing but verbosity may be
given twice. Help and version are not among the options.
-/
namespace TuringScript.CommandLine

inductive Flag where
  | trace
  | json
  | list
  | verbose
  deriving DecidableEq, Repr

inductive Setting where
  | program
  | builtin
  | input
  | limit
  | state
  | width
  deriving DecidableEq, Repr

inductive Argument where
  | flag (flag : Flag)
  | setting (setting : Setting) (value : String)
  deriving DecidableEq, Repr

inductive UsageError where
  | noArguments
  | unexpected (argument : String)
  | missingValue (argument : String)
  | needlessValue (argument : String)
  | repeated
  | conflict
  | emptyPath
  | badNumber (value : String)
  deriving DecidableEq, Repr

def UsageError.message : UsageError → String
  | .noArguments => "a program is required"
  | .unexpected argument => "unexpected argument '" ++ argument ++ "'"
  | .missingValue argument => "a value is required for '" ++ argument ++ "'"
  | .needlessValue argument => "no value is allowed in '" ++ argument ++ "'"
  | .repeated => "an option is given more than once"
  | .conflict => "--program cannot be used with --builtin"
  | .emptyPath => "a path must not be empty"
  | .badNumber value => "invalid number '" ++ value ++ "'"

/-! ### Arguments -/

/-- What an option's name or letter selects. -/
abbrev Selected := Flag ⊕ Setting

def ofName? : String → Option Selected
  | "trace" => some (.inl .trace)
  | "json" => some (.inl .json)
  | "list" => some (.inl .list)
  | "verbose" => some (.inl .verbose)
  | "program" => some (.inr .program)
  | "builtin" => some (.inr .builtin)
  | "input" => some (.inr .input)
  | "limit" => some (.inr .limit)
  | "state" => some (.inr .state)
  | "width" => some (.inr .width)
  | _ => none

def ofLetter? : Char → Option Selected
  | 't' => some (.inl .trace)
  | 'v' => some (.inl .verbose)
  | 'p' => some (.inr .program)
  | 'b' => some (.inr .builtin)
  | 'i' => some (.inr .input)
  | 'l' => some (.inr .limit)
  | 's' => some (.inr .state)
  | 'w' => some (.inr .width)
  | _ => none

/-- Options spelled in one argument, and the setting at its end that still needs a value. -/
structure Spelled where
  complete : List Argument
  open? : Option Setting

/-- A name, and the value after an equals sign, if there is one. -/
def spelledLong (argument : String) (text : List Char) : Except UsageError Spelled :=
  let (name, after) := text.span (· ≠ '=')
  match ofName? (String.ofList name), after with
  | none, _ => .error (.unexpected argument)
  | some (.inl flag), [] => .ok ⟨[.flag flag], none⟩
  | some (.inl _), _ => .error (.needlessValue argument)
  | some (.inr setting), [] => .ok ⟨[], some setting⟩
  | some (.inr setting), _ :: value => .ok ⟨[.setting setting (String.ofList value)], none⟩

/-- Letters in a row. The first setting takes all that follows it. -/
def spelledShort (argument : String) : List Char → Except UsageError Spelled
  | [] => .ok ⟨[], none⟩
  | letter :: rest =>
    match ofLetter? letter with
    | none => .error (.unexpected argument)
    | some (.inl flag) => do
      let later ← spelledShort argument rest
      return { later with complete := .flag flag :: later.complete }
    | some (.inr setting) =>
      match rest with
      | [] => .ok ⟨[], some setting⟩
      | '=' :: value | value => .ok ⟨[.setting setting (String.ofList value)], none⟩

def spelled (argument : String) : Except UsageError Spelled :=
  match argument.toList with
  | '-' :: '-' :: text => spelledLong argument text
  | '-' :: letter :: text => spelledShort argument (letter :: text)
  | _ => .error (.unexpected argument)

/-- Whether an argument can be the value of the setting before it. -/
def isValue (argument : String) : Bool :=
  argument = "-" || !argument.startsWith "-"

/-- Two dashes alone end the options; no argument may follow them. -/
def arguments : List String → Except UsageError (List Argument)
  | [] => .ok []
  | argument :: rest =>
    if argument = "--" then
      match rest with
      | [] => .ok []
      | next :: _ => .error (.unexpected next)
    else
      match spelled argument, rest with
      | .error fault, _ => .error fault
      | .ok ⟨complete, none⟩, rest => do
        let later ← arguments rest
        return complete ++ later
      | .ok ⟨_, some _⟩, [] => .error (.missingValue argument)
      | .ok ⟨complete, some setting⟩, value :: rest =>
        if isValue value then do
          let later ← arguments rest
          return complete ++ .setting setting value :: later
        else .error (.missingValue argument)

/-! ### Options -/

def countFlag (given : List Argument) (flag : Flag) : Nat := given.count (.flag flag)

def single (given : List Argument) (flag : Flag) : Except UsageError Bool :=
  match countFlag given flag with
  | 0 => .ok false
  | 1 => .ok true
  | _ => .error .repeated

def value? (given : List Argument) (setting : Setting) : Except UsageError (Option String) :=
  let values := given.filterMap fun argument =>
    match argument with
    | .setting name value => if name = setting then some value else none
    | .flag _ => none
  match values with
  | [] => .ok none
  | [value] => .ok (some value)
  | _ => .error .repeated

def number? (text : Option String) : Except UsageError (Option Nat) :=
  match text with
  | none => .ok none
  | some text =>
    match Text.unsigned? text with
    | some value => .ok (some value)
    | none => .error (.badNumber text)

def options (args : List String) : Except UsageError Options := do
  let given ← arguments args
  if given.isEmpty then throw .noArguments
  let program ← value? given .program
  let builtin ← value? given .builtin
  if program.isSome && builtin.isSome then throw .conflict
  if program = some "" then throw .emptyPath
  let width ← number? (← value? given .width)
  return {
    program := program
    builtin := builtin
    input := ← value? given .input
    limit := ← number? (← value? given .limit)
    state := ← value? given .state
    trace := ← single given .trace
    width := width.getD 21
    json := ← single given .json
    list := ← single given .list
    verbosity := countFlag given .verbose }

end TuringScript.CommandLine
