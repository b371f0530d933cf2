import TuringScript.Machine.Run
import TuringScript.Source

/-!
# Sessions

A machine together with its listeners and their memory, and the calls that are made on it.
-/
namespace TuringScript

structure Session (σ : Type) where
  machine : Machine
  listeners : List (Listener σ)
  memory : σ

/-- A call on a session. -/
inductive Operation (σ : Type) where
  | addRule (rule : Rule)
  | read (dialect : Dialect) (source : String)
  | setTape (content : String)
  | clearTape
  | setInitialState (state : String)
  | setLimit (limit : Nat)
  | listen (listener : Listener σ)
  | step
  | run
  | stop
  | reset

/-- What a call returns. -/
inductive Answer where
  | done
  | emitted (result : Except ParseError Nat)
  | stepped (matched : Bool)
  | halted (halt : Halt)

namespace Session

variable {σ : Type}

def ofMachine (machine : Machine) (memory : σ) : Session σ := ⟨machine, [], memory⟩

def update (session : Session σ) (change : Machine → Machine) : Session σ :=
  { session with machine := change session.machine }

/-- The answer to a call and the session after it; nothing for a run of `fuel` steps or more. -/
def perform (fuel : Nat) (session : Session σ) : Operation σ → Option (Answer × Session σ)
  | .addRule rule => some (.done, session.update (·.addRule rule))
  | .read dialect source =>
    let reading := dialect.read source
    some (.emitted reading.result, session.update (·.addRules reading.rules))
  | .setTape content => some (.done, session.update (·.setTape content))
  | .clearTape => some (.done, session.update Machine.clearTape)
  | .setInitialState state => some (.done, session.update (·.setInitialState state))
  | .setLimit limit => some (.done, session.update (·.setLimit limit))
  | .listen listener =>
    some (.done, { session with listeners := session.listeners ++ [listener] })
  | .step =>
    let (matched, machine) := session.machine.step
    some (.stepped matched, { session with machine := machine })
  | .run =>
    (session.machine.runWithin fuel session.listeners session.memory).map
      fun (halt, machine, memory) =>
        (.halted halt, { session with machine := machine, memory := memory })
  | .stop => some (.done, session.update Machine.requestStop)
  | .reset => some (.done, session.update Machine.reset)

end Session
end TuringScript
