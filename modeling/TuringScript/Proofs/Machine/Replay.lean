import TuringScript.Proofs.Machine.Race

/-!
# Replay

Listeners that heed nothing from before the present run give the same answers whenever the same run
is made again. The race then ends as it did, so everything that can be told of the run repeats
itself, whatever the memory of the listeners has become in the meantime.
-/
namespace TuringScript

variable {σ : Type}

/-- What listeners answer to rounds of notifications: for each round, whether one of them asks for a
stop. -/
def Listener.answers (listeners : List (Listener σ)) : List (Notice × Machine) → σ → List Bool
  | [], _ => []
  | (notice, machine) :: later, memory =>
    machine.asks listeners notice memory ::
      answers listeners later (machine.notify listeners notice memory).2

/-- From the start of a run on, the answers do not depend on what was remembered before. -/
def Listener.StartAfresh (listeners : List (Listener σ)) : Prop :=
  ∀ (machine : Machine) (later : List (Notice × Machine)) (memory other : σ),
    answers listeners ((.started, machine) :: later) memory =
      answers listeners ((.started, machine) :: later) other

namespace Machine

open Listener (answers StartAfresh)

variable (listeners : List (Listener σ)) (machine : Machine)

/-- A round of a run, with the machine that its listeners are shown. -/
def roundShown (n : Nat) : Notice × Machine := (roundNotice n, machine.running.after n)

/-- Told about rounds, listeners have in each of them the memory that the run gives them. -/
theorem answers_rounds (memory : σ) (n : Nat) (later : List (Notice × Machine)) :
    answers listeners ((List.range n).map machine.roundShown ++ later) memory =
      (List.range n).map (fun j => (machine.running.after j).asks listeners (roundNotice j)
          (machine.memoryBefore listeners memory j)) ++
        answers listeners later (machine.memoryBefore listeners memory n) := by
  induction n generalizing later with
  | zero => rfl
  | succ n ih =>
    rw [List.range_succ, List.map_append, List.append_assoc, ih, List.map_append,
      List.append_assoc]
    rfl

section Afresh

variable {listeners} (afresh : StartAfresh listeners) (memory other : σ)
include afresh

/-- Answers in the rounds of a run and to what comes after them, with two memories. -/
theorem answers_rounds_congr (n : Nat) (later : List (Notice × Machine)) :
    (∀ j ≤ n, (machine.running.after j).asks listeners (roundNotice j)
        (machine.memoryBefore listeners memory j) =
      (machine.running.after j).asks listeners (roundNotice j)
        (machine.memoryBefore listeners other j)) ∧
    answers listeners later (machine.memoryBefore listeners memory (n + 1)) =
      answers listeners later (machine.memoryBefore listeners other (n + 1)) := by
  have same := afresh machine.running
    ((List.range n).map (fun j => machine.roundShown (j + 1)) ++ later) memory other
  -- The first of the rounds is the start of the run.
  have first : (Notice.started, machine.running) ::
      ((List.range n).map (fun j => machine.roundShown (j + 1)) ++ later) =
        (List.range (n + 1)).map machine.roundShown ++ later := by
    rw [List.range_succ_eq_map, List.map_cons, List.map_map]
    rfl
  rw [first, answers_rounds, answers_rounds] at same
  obtain ⟨rounds, rest⟩ := List.append_inj same (by simp)
  refine ⟨?_, rest⟩
  intro j within
  exact List.map_inj_left.mp rounds j (List.mem_range.mpr (Nat.lt_succ_of_le within))

theorem stopRound_congr :
    machine.stopRound listeners memory = machine.stopRound listeners other := by
  have same (n : Nat) : machine.asksIn listeners memory n ↔ machine.asksIn listeners other n := by
    have asked := (answers_rounds_congr machine afresh memory other n []).1 n le_rfl
    rw [asksIn, asksIn, asked]
  rw [stopRound, stopRound, funext fun n => propext (same n)]

theorem runLength_congr :
    machine.runLength listeners memory = machine.runLength listeners other := by
  rw [runLength, stopRound_congr machine afresh memory other, runLength]

theorem cause_congr (k : Nat) :
    machine.cause listeners memory k = machine.cause listeners other k := by
  rw [cause, stopRound_congr machine afresh memory other, cause]

theorem lastInLoop_congr (k : Nat) :
    lastInLoop listeners machine memory k = lastInLoop listeners machine other k := by
  have asked := (answers_rounds_congr machine afresh memory other k []).1 k le_rfl
  simp only [lastInLoop, cause_congr machine afresh memory other, atCheck, notify_fst, asked]

/-- The machine at the end of a run, where a stop may have been requested in the last round. -/
theorem result_congr (k : Nat) :
    (result listeners machine memory k).2.1 = (result listeners machine other k).2.1 := by
  -- After the rounds, the listeners are told that the run has ended.
  have last := (answers_rounds_congr machine afresh memory other k
    [(.stopped (machine.cause listeners other k),
      { lastInLoop listeners machine other k with status := .stopped })]).2
  have asked := (List.cons.inj last).1
  simp only [result, finish, cause_congr machine afresh memory other,
    lastInLoop_congr machine afresh memory other, notify_fst, asked]

end Afresh

/-- A run that ends has the length and the result that the race gives it. -/
theorem eq_result_of_runWithin {listeners : List (Listener σ)} {machine : Machine} {memory : σ}
    {fuel : Nat} {outcome : Halt × Machine × σ}
    (ends : machine.runWithin fuel listeners memory = some outcome) :
    ∃ k : ℕ, machine.runLength listeners memory = k ∧ k < fuel ∧
      outcome = result listeners machine memory k := by
  cases length : machine.runLength listeners memory with
  | top =>
    rw [runWithin_of_runLength_eq_top listeners machine memory length] at ends
    cases ends
  | coe k =>
    rw [runWithin_of_eq_runLength listeners machine memory length] at ends
    obtain ⟨enough, same⟩ := Option.ite_none_right_eq_some.mp ends
    exact ⟨k, rfl, enough, (Option.some.inj same).symm⟩

theorem runWithin_recordingFrom {listeners : List (Listener σ)} {machine : Machine} {memory : σ}
    {k : Nat} (length : machine.runLength listeners memory = k) {fuel : Nat} (enough : k < fuel) :
    machine.runWithin fuel (Listener.recordingFrom 0 listeners) (memory, []) =
      some (machine.cause listeners memory k, (result listeners machine memory k).2.1,
        (result listeners machine memory k).2.2,
        machine.hearings listeners.length (machine.cause listeners memory k) k) := by
  have same := (runLength_recordingFrom listeners machine memory).trans length
  rw [runWithin_of_eq_runLength _ machine _ same, if_pos enough, result_recordingFrom]
  rfl

end Machine
end TuringScript
