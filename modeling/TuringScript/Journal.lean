import TuringScript.Machine.Run
import TuringScript.Source
import TuringScript.Text.Quoted

/-!
# Journal

The log events of reading rule text, of running a machine and of loading a program. Every event has
a level; a journal at some level shows the events that are at least as severe.
-/
namespace TuringScript

inductive Level where
  | error
  | warn
  | info
  | debug
  | trace
  deriving DecidableEq, Repr

namespace Level

def name : Level → String
  | .error => "ERROR"
  | .warn => "WARN"
  | .info => "INFO"
  | .debug => "DEBUG"
  | .trace => "TRACE"

/-- Counts from the most severe level on. -/
def rank : Level → Nat
  | .error => 0
  | .warn => 1
  | .info => 2
  | .debug => 3
  | .trace => 4

end Level

inductive Event where
  | expanding (line combinations : Nat)
  | emitted (rule : Rule)
  | accepted (line rules : Nat)
  | rejected (error : ParseError)
  | started (state : String) (limit : Option Nat)
  | stepped (step : Nat) (state : String) (head : Nat)
  | stopped (state : String) (steps : Nat) (halt : Halt)
  | loaded (path : String) (rules : Nat)
  deriving DecidableEq, Repr

namespace Event

def level : Event → Level
  | .expanding _ _ | .emitted _ | .stepped _ _ _ => .trace
  | .accepted _ _ | .started _ _ | .stopped _ _ _ => .debug
  | .rejected _ => .warn
  | .loaded _ _ => .info

def limitText : Option Nat → String
  | some limit => "Some(" ++ toString limit ++ ")"
  | none => "None"

def message : Event → String
  | .expanding _ _ => "expanding rule"
  | .emitted _ => "rule"
  | .accepted _ _ => "parsed rule line"
  | .rejected _ => "rejected rule line"
  | .started _ _ => "run started"
  | .stepped _ _ _ => "step"
  | .stopped _ _ _ => "run stopped"
  | .loaded _ _ => "loaded rule program"

/-- Names and texts of the values an event carries, in the order in which they are shown. -/
def values : Event → List (String × String)
  | .expanding line combinations =>
    [("line", toString line), ("combinations", toString combinations)]
  | .emitted rule =>
    [("line", toString rule.line), ("state", rule.key.state),
      ("read", Text.quoted rule.key.symbol), ("next", rule.transition.nextState),
      ("write", Text.quoted rule.transition.write),
      ("direction", rule.transition.direction.glyph.toString)]
  | .accepted line rules => [("line", toString line), ("rules", toString rules)]
  | .rejected error => [("line", toString error.line), ("error", error.message)]
  | .started state limit => [("state", state), ("limit", limitText limit)]
  | .stepped step state head =>
    [("step", toString step), ("state", state), ("head", toString head)]
  | .stopped state steps halt =>
    [("state", state), ("steps", toString steps), ("halt", halt.name)]
  | .loaded path rules => [("path", path), ("rules", toString rules)]

def text (event : Event) : String :=
  " ".intercalate (event.level.name :: event.message ::
    event.values.map fun (name, value) => name ++ "=" ++ value)

/-- Whether a journal at `level` shows the event. -/
def isShownAt (level : Level) (event : Event) : Bool := event.level.rank ≤ level.rank

end Event

/-! ### Events of reading -/

/-- Lines that say nothing and lines that could not be fetched leave no event. -/
def LineReport.events (report : LineReport) : List Event :=
  match report.outcome with
  | .skipped | .unreadable _ => []
  | .rejected fault => [.rejected ⟨fault, report.number⟩]
  | .expanded combinations rules fault =>
    .expanding report.number combinations :: rules.map .emitted ++
      match fault with
      | some fault => [.rejected ⟨fault, report.number⟩]
      | none => [.accepted report.number rules.length]

def Reading.events (reading : Reading) : List Event :=
  reading.reports.flatMap LineReport.events

/-! ### Events of running -/

def Event.ofNotice (machine : Machine) : Notice → Event
  | .started => .started machine.state machine.limit
  | .stepped => .stepped machine.steps machine.state machine.tape.headIndex
  | .stopped halt => .stopped machine.state machine.steps halt

/-- Records the events of a run in a memory that holds the latest one first. -/
def Listener.journal : Listener (List Event) where
  respond notice machine events := (.ofNotice machine notice :: events, false)

/-- The events of a run that only the journal listens to. -/
def Machine.runEvents (fuel : Nat) (machine : Machine) : Option (List Event) :=
  (machine.runWithin fuel [.journal] []).map fun (_, _, events) => events.reverse

end TuringScript
