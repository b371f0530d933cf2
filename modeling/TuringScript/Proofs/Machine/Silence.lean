import TuringScript.Proofs.Machine.Race

/-!
# Silent listeners

Listeners that never ask for a stop have no part in how a run ends. Whatever they are, it takes as
many steps, ends for the same cause and leaves the same machine behind.
-/
namespace TuringScript

variable {σ : Type}

/-- A listener that never asks for a stop. -/
def Listener.Silent (listener : Listener σ) : Prop :=
  ∀ notice machine memory, (listener.respond notice machine memory).2 = false

namespace Machine

/-- The number of steps of a run that no listener stops. -/
noncomputable def quietLength (machine : Machine) : ℕ∞ := min machine.successes machine.budget

/-- What ends a run of `k` steps that no listener stops. -/
noncomputable def quietCause (machine : Machine) (k : Nat) : Halt :=
  if machine.budget = k then .stepLimit else .noRule

variable {listeners : List (Listener σ)} (silent : ∀ listener ∈ listeners, listener.Silent)
include silent

theorem asks_of_silent (notice : Notice) (machine : Machine) (memory : σ) :
    machine.asks listeners notice memory = false := by
  induction listeners generalizing machine memory with
  | nil => rfl
  | cons listener later ih =>
    obtain ⟨first, others⟩ := List.forall_mem_cons.mp silent
    rw [asks_cons, first, ih others, Bool.or_false]

variable (machine : Machine) (memory : σ)

theorem not_asksIn_of_silent (n : Nat) : ¬ machine.asksIn listeners memory n := by
  rw [asksIn, asks_of_silent silent]
  exact Bool.false_ne_true

theorem stopRound_of_silent : machine.stopRound listeners memory = ⊤ := by
  simp only [stopRound, least, iInf_eq_top]
  exact fun n asked => absurd asked (not_asksIn_of_silent silent machine memory n)

theorem runLength_of_silent : machine.runLength listeners memory = machine.quietLength := by
  rw [runLength, stopRound_of_silent silent, min_top_right, quietLength]

theorem cause_of_silent (k : Nat) : machine.cause listeners memory k = machine.quietCause k := by
  rw [cause, stopRound_of_silent silent, if_neg (ENat.top_ne_natCast k), quietCause]

/-- The machine does not depend on the listeners, only their memory does. -/
theorem result_of_silent (k : Nat) :
    result listeners machine memory k =
      (machine.quietCause k, machine.ended (machine.quietCause k) k,
        ((machine.ended (machine.quietCause k) k).notify listeners (.stopped (machine.quietCause k))
          (machine.memoryBefore listeners memory (k + 1))).2) := by
  -- Neither the check before a round nor the notice at the end changes the machine.
  have left : lastInLoop listeners machine memory k =
      machine.running.after (if machine.quietCause k = .noRule then k + 1 else k) := by
    unfold lastInLoop
    rw [cause_of_silent silent]
    split
    · rfl
    · exact atCheck_fst_of_not_asksIn _ _ _ (not_asksIn_of_silent silent machine memory k)
  have unchanged : ((machine.ended (machine.quietCause k) k).notify listeners
      (.stopped (machine.quietCause k)) (machine.memoryBefore listeners memory (k + 1))).1 =
        machine.ended (machine.quietCause k) k := by
    rw [notify_fst, asks_of_silent silent, if_neg Bool.false_ne_true]
  rw [result, cause_of_silent silent, finish, left]
  exact Prod.ext rfl (Prod.ext unchanged rfl)

omit silent

/-- A run that no listener stops is past its steps in the state, on the tape and with the step
counter that so many steps lead to. -/
theorem configuration_ended {k : Nat} (length : machine.quietLength = k) :
    (machine.ended (machine.quietCause k) k).configuration = (machine.after k).configuration := by
  -- What a run leaves behind is known for any listeners, so it is taken from a run without any.
  have alone : ∀ listener ∈ ([] : List (Listener Unit)), listener.Silent := nofun
  have same := configuration_result [] machine ()
    ((runLength_of_silent alone machine ()).trans length)
  rwa [result_of_silent alone] at same

theorem steps_ended {k : Nat} (length : machine.quietLength = k) :
    (machine.ended (machine.quietCause k) k).steps = machine.steps + k := by
  have moves : (k : ℕ∞) ≤ machine.successes := length ▸ min_le_left _ _
  rw [← steps_after moves]
  exact congrArg (·.2.2.1) (configuration_ended machine length)

theorem runAlone_of_quietLength {k : Nat} (length : machine.quietLength = k) (fuel : Nat) :
    machine.runAlone fuel =
      if k < fuel then some (machine.quietCause k, machine.ended (machine.quietCause k) k)
      else none := by
  have alone : ∀ listener ∈ ([] : List (Listener Unit)), listener.Silent := nofun
  rw [runAlone, runWithin_of_eq_runLength [] machine ()
    ((runLength_of_silent alone machine ()).trans length), result_of_silent alone]
  split <;> rfl

theorem runAlone_of_endless (endless : machine.quietLength = ⊤) (fuel : Nat) :
    machine.runAlone fuel = none := by
  have alone : ∀ listener ∈ ([] : List (Listener Unit)), listener.Silent := nofun
  rw [runAlone, runWithin_of_runLength_eq_top [] machine ()
    ((runLength_of_silent alone machine ()).trans endless)]
  rfl

end Machine
end TuringScript
