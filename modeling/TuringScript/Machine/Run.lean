import TuringScript.Machine.Basic

/-!
# Runs

A run notifies its listeners when it starts, after every step and when it has ended. Before each
step it looks, in this order, whether a stop was requested, whether the step counter is past the
limit, and whether a rule matches. A machine may run for ever, so a run is given a number of rounds
and answers nothing when they are used up.
-/
namespace TuringScript

/-- The occasion on which listeners are notified. -/
inductive Notice where
  | started
  | stepped
  | stopped (halt : Halt)
  deriving DecidableEq, Repr

/-- A listener sees the machine, updates a memory that it shares with the other listeners, and says
whether the run should stop. -/
structure Listener (σ : Type) where
  respond : Notice → Machine → σ → σ × Bool

namespace Machine

variable {σ : Type}

/-- Listeners are notified in order of registration; each sees the requests of those before it. -/
def notify (listeners : List (Listener σ)) (notice : Notice) (machine : Machine) (memory : σ) :
    Machine × σ :=
  listeners.foldl
    (fun (machine, memory) listener =>
      let (memory, stop) := listener.respond notice machine memory
      (if stop then machine.requestStop else machine, memory))
    (machine, memory)

/-- The rounds of a run that has started. -/
def rounds (listeners : List (Listener σ)) : Nat → Machine → σ → Option (Halt × Machine × σ)
  | 0, _, _ => none
  | fuel + 1, machine, memory =>
    if machine.stopRequested then some (.cancelled, machine, memory)
    else if machine.overLimit then some (.stepLimit, machine, memory)
    else match machine.step with
      | (false, machine) => some (.noRule, machine, memory)
      | (true, machine) =>
        let (machine, memory) := machine.notify listeners .stepped memory
        rounds listeners fuel machine memory

/-- Rounds to spare change nothing. -/
theorem rounds_add (listeners : List (Listener σ)) (fuel more : Nat) (machine : Machine)
    (memory : σ) {result : Halt × Machine × σ}
    (ends : rounds listeners fuel machine memory = some result) :
    rounds listeners (fuel + more) machine memory = some result := by
  induction fuel generalizing machine memory with
  | zero => simp [rounds] at ends
  | succ fuel ih =>
    rw [Nat.succ_add_eq_add_succ, Nat.add_succ]
    simp only [rounds] at ends ⊢
    split
    · simpa [*] using ends
    · split
      · simpa [*] using ends
      · split
        next stepped => simpa [*] using ends
        next stepped => exact ih _ _ (by simpa [*] using ends)

def start (listeners : List (Listener σ)) (machine : Machine) (memory : σ) : Machine × σ :=
  { machine with stopRequested := false, status := .running }.notify listeners .started memory

def finish (listeners : List (Listener σ)) (halt : Halt) (machine : Machine) (memory : σ) :
    Machine × σ :=
  { machine with status := .stopped }.notify listeners (.stopped halt) memory

/-- A run of fewer than `fuel` steps. -/
def runWithin (fuel : Nat) (listeners : List (Listener σ)) (machine : Machine) (memory : σ) :
    Option (Halt × Machine × σ) :=
  let (machine, memory) := machine.start listeners memory
  (rounds listeners fuel machine memory).map fun (halt, machine, memory) =>
    (halt, finish listeners halt machine memory)

/-- A run that nobody listens to. -/
def runAlone (fuel : Nat) (machine : Machine) : Option (Halt × Machine) :=
  (machine.runWithin fuel ([] : List (Listener Unit)) ()).map fun (halt, machine, _) =>
    (halt, machine)

/-- More rounds than any run that ends within reach. -/
def patience : Nat := 0x4000000000000000

end Machine
end TuringScript
