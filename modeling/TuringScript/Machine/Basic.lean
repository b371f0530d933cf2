import TuringScript.Table
import TuringScript.Tape

/-!
# Machines

A machine owns a rule table and a tape. A step looks up the present state and the symbol under the
head; if a rule matches, it writes, changes state and moves. The key of the last lookup is
remembered whether or not it matched.
-/
namespace TuringScript

/-- Why a run ended. -/
inductive Halt where
  | noRule
  | stepLimit
  | cancelled
  deriving DecidableEq, Repr

def Halt.name : Halt → String
  | .noRule => "NoRule"
  | .stepLimit => "StepLimit"
  | .cancelled => "Cancelled"

inductive Status where
  | ready
  | running
  | stopped
  deriving DecidableEq, Repr

def Status.name : Status → String
  | .ready => "Ready"
  | .running => "Running"
  | .stopped => "Stopped"

structure Machine where
  table : Table
  tape : Tape
  initialTape : String
  initialState : String
  state : String
  steps : Nat
  limit : Option Nat
  stopRequested : Bool
  status : Status
  lastKey : Option Key
  lastMove : Option Direction
  deriving DecidableEq

namespace Machine

def defaultState : String := "0"

def ofTable (table : Table) : Machine where
  table := table
  tape := .blank
  initialTape := ""
  initialState := defaultState
  state := defaultState
  steps := 0
  limit := none
  stopRequested := false
  status := .ready
  lastKey := none
  lastMove := none

def empty : Machine := ofTable .empty

/-! ### Setting up -/

def addRule (machine : Machine) (rule : Rule) : Machine :=
  { machine with table := machine.table.insert rule }

def addRules (machine : Machine) (rules : List Rule) : Machine :=
  { machine with table := machine.table.insertAll rules }

def setTape (machine : Machine) (content : String) : Machine :=
  { machine with initialTape := content, tape := .ofString content }

def clearTape (machine : Machine) : Machine := machine.setTape ""

/-- Changes the state a reset returns to, and goes there. -/
def setInitialState (machine : Machine) (state : String) : Machine :=
  { machine with initialState := state, state := state }

/-- A limit of zero changes nothing. -/
def setLimit (machine : Machine) (limit : Nat) : Machine :=
  if limit = 0 then machine else { machine with limit := some limit }

theorem setLimit_eq (machine : Machine) (limit : Nat) :
    machine.setLimit limit =
      { machine with limit := if limit = 0 then machine.limit else some limit } := by
  unfold setLimit
  split <;> rfl

def requestStop (machine : Machine) : Machine := { machine with stopRequested := true }

/-- Goes back to the initial state and tape. Rules and limit are kept. -/
def reset (machine : Machine) : Machine :=
  { machine with
    state := machine.initialState
    tape := .ofString machine.initialTape
    steps := 0
    status := .ready
    stopRequested := false
    lastKey := none
    lastMove := none }

/-! ### Observing -/

/-- The step counter is past the limit. -/
def overLimit (machine : Machine) : Bool :=
  match machine.limit with
  | some limit => limit < machine.steps
  | none => false

/-- The line of the rule that the table now holds under the key of the last lookup. -/
def debugLine (machine : Machine) : Option Nat :=
  machine.lastKey.bind machine.table.line?

def key (machine : Machine) : Key := ⟨machine.state, machine.tape.head⟩

/-! ### Stepping -/

def apply (machine : Machine) (transition : Transition) : Machine :=
  { machine with
    tape := (machine.tape.write transition.write).move transition.direction
    state := transition.nextState
    lastMove := some transition.direction
    steps := machine.steps + 1 }

/-- Tells whether a rule matched. Without one, only the last key changes. -/
def step (machine : Machine) : Bool × Machine :=
  let looked := { machine with lastKey := some machine.key }
  match machine.table.lookup? machine.key with
  | none => (false, looked)
  | some transition => (true, looked.apply transition)

/-- Steps until no rule matches, but at most `count` times. -/
def stepUpTo : Nat → Machine → Machine
  | 0, machine => machine
  | count + 1, machine =>
    match machine.step with
    | (true, machine) => stepUpTo count machine
    | (false, machine) => machine

end Machine
end TuringScript
