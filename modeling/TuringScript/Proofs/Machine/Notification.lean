import TuringScript.Proofs.Machine.Stepping
import TuringScript.Machine.Run

/-!
# Notification

What one round of notifications does to the machine and to the memory of the listeners. Listeners
can be made to record what they are told; the record changes nothing else.
-/
namespace TuringScript

variable {σ : Type}

namespace Machine

/-- Whether some listener asks for a stop. Each one finds the memory as those before it left it. -/
def asks : List (Listener σ) → Notice → Machine → σ → Bool
  | [], _, _, _ => false
  | listener :: later, notice, machine, memory =>
    let (memory, stop) := listener.respond notice machine memory
    stop || asks later notice (if stop then machine.requestStop else machine) memory

theorem asks_cons (listener : Listener σ) (later : List (Listener σ)) (notice : Notice)
    (machine : Machine) (memory : σ) :
    machine.asks (listener :: later) notice memory =
      ((listener.respond notice machine memory).2 || asks later notice
        (if (listener.respond notice machine memory).2 then machine.requestStop else machine)
        (listener.respond notice machine memory).1) := rfl

theorem notify_cons (listener : Listener σ) (later : List (Listener σ)) (notice : Notice)
    (machine : Machine) (memory : σ) :
    machine.notify (listener :: later) notice memory =
      notify later notice
        (if (listener.respond notice machine memory).2 then machine.requestStop else machine)
        (listener.respond notice machine memory).1 := rfl

/-- All that listeners can change in the machine is that a stop is requested. -/
theorem notify_fst (listeners : List (Listener σ)) (notice : Notice) (machine : Machine)
    (memory : σ) :
    (machine.notify listeners notice memory).1 =
      if machine.asks listeners notice memory then machine.requestStop else machine := by
  induction listeners generalizing machine memory with
  | nil => rfl
  | cons listener later ih =>
    rw [notify_cons, ih, asks_cons]
    -- A second request for a stop changes nothing any more.
    cases stop : (listener.respond notice machine memory).2 with
    | false => simp
    | true =>
      simp only [if_true, Bool.true_or]
      split <;> rfl

/-- The machine as listeners can see it. They have no means to read whether a stop was requested. -/
def seen (machine : Machine) : Machine := { machine with stopRequested := false }

theorem seen_notify_fst (listeners : List (Listener σ)) (notice : Notice) (machine : Machine)
    (memory : σ) : (machine.notify listeners notice memory).1.seen = machine.seen := by
  rw [notify_fst]
  split <;> rfl

end Machine

/-- One call of one listener: which one in order of registration, on what occasion, and the machine
it was shown. -/
structure Hearing where
  listener : Nat
  notice : Notice
  machine : Machine
  deriving DecidableEq

/-- The hearings of `count` listeners, the first of them having the number `first`. -/
def Hearing.round (first count : Nat) (notice : Notice) (machine : Machine) : List Hearing :=
  (List.range' first count).map (⟨·, notice, machine.seen⟩)

/-- A listener that records its hearings. -/
def Listener.recording (listener : Listener σ) (number : Nat) : Listener (σ × List Hearing) where
  respond notice machine memory :=
    let (inner, stop) := listener.respond notice machine memory.1
    ((inner, memory.2 ++ [⟨number, notice, machine.seen⟩]), stop)

/-- Listeners that record their hearings, numbered from `first` on. -/
def Listener.recordingFrom (first : Nat) :
    List (Listener σ) → List (Listener (σ × List Hearing))
  | [] => []
  | listener :: later => listener.recording first :: recordingFrom (first + 1) later

namespace Machine

theorem asks_recordingFrom (first : Nat) (listeners : List (Listener σ)) (notice : Notice)
    (machine : Machine) (memory : σ) (record : List Hearing) :
    machine.asks (Listener.recordingFrom first listeners) notice (memory, record) =
      machine.asks listeners notice memory := by
  induction listeners generalizing first machine memory record with
  | nil => rfl
  | cons listener later ih => simp only [Listener.recordingFrom, asks_cons, Listener.recording, ih]

/-- The record grows by one hearing for each listener, in order of registration. -/
theorem notify_recordingFrom (first : Nat) (listeners : List (Listener σ)) (notice : Notice)
    (machine : Machine) (memory : σ) (record : List Hearing) :
    machine.notify (Listener.recordingFrom first listeners) notice (memory, record) =
      ((machine.notify listeners notice memory).1, (machine.notify listeners notice memory).2,
        record ++ Hearing.round first listeners.length notice machine) := by
  induction listeners generalizing first machine memory record with
  | nil => simp [Listener.recordingFrom, notify, Hearing.round]
  | cons listener later ih =>
    simp only [Listener.recordingFrom, notify_cons, Listener.recording, ih]
    -- A request made by an earlier listener of the round is not seen by the later ones.
    have hidden : (if (listener.respond notice machine memory).2 = true then machine.requestStop
        else machine).seen = machine.seen := by split <;> rfl
    simp [Hearing.round, List.range'_succ, hidden]

end Machine
end TuringScript
