import TuringScript.Proofs.Machine.Race

/-!
# Past the limit

Whether the step counter is past the limit is a comparison that can be made at any time. After a run
it tells that the run ended on its step budget, with one exception: a run is also past its limit if
a listener stopped it in the very round in which the budget was used up.
-/
namespace TuringScript.Machine

variable {σ : Type}

/-- The comparison depends on two numbers only. -/
theorem overLimit_congr {machine other : Machine} (steps : other.steps = machine.steps)
    (limit : other.limit = machine.limit) : other.overLimit = machine.overLimit := by
  unfold overLimit
  rw [steps, limit]

section Ending

variable (listeners : List (Listener σ)) (machine : Machine) (memory : σ)

theorem limit_result (k : Nat) :
    (result listeners machine memory k).2.1.limit = machine.limit := by
  have shown := congrArg (·.limit) (seen_result listeners machine memory k)
  change (result listeners machine memory k).2.1.limit = (machine.running.after _).limit at shown
  rw [shown, after_limit]
  rfl

/-- After a run of `k` steps the counter is past the limit if these were the whole budget. -/
theorem overLimit_result_iff {k : Nat} (length : machine.runLength listeners memory = k) :
    (result listeners machine memory k).2.1.overLimit = true ↔ machine.budget = k := by
  obtain ⟨⟨moves, budgeted⟩, _⟩ : ((k : ℕ∞) ≤ machine.successes ∧ (k : ℕ∞) ≤ machine.budget) ∧
      (k : ℕ∞) ≤ machine.stopRound listeners memory := by
    simpa only [runLength, le_min_iff] using length.ge
  have counted : (result listeners machine memory k).2.1.steps = (machine.after k).steps :=
    congrArg (·.2.2.1) (configuration_result listeners machine memory length)
  have limited : (result listeners machine memory k).2.1.limit = (machine.after k).limit := by
    rw [limit_result, after_limit]
  rw [overLimit_congr counted limited, overLimit_after_iff moves]
  exact ⟨fun used => le_antisymm used budgeted, fun used => used.le⟩

/-- The stop is looked for before the budget, and the missing rule only with budget left. -/
theorem budget_eq_iff_cause (k : Nat) :
    machine.budget = k ↔ machine.cause listeners memory k = .stepLimit ∨
      machine.cause listeners memory k = .cancelled ∧
        machine.budget = machine.stopRound listeners memory := by
  unfold cause
  split
  next asked => simp [asked]
  next unasked =>
    split
    next used => simp [used]
    next unused => simp [unused]

end Ending

/-- A run that has ended is past its limit if it ended on its step budget, or if it was stopped and
the stop was first asked for in the round in which the budget was used up, and in no other case. -/
theorem overLimit_iff_of_runWithin (listeners : List (Listener σ)) (machine final : Machine)
    (memory remembered : σ) (halt : Halt) (fuel : Nat)
    (ends : machine.runWithin fuel listeners memory = some (halt, final, remembered)) :
    final.overLimit = true ↔ halt = .stepLimit ∨
      halt = .cancelled ∧ machine.budget = machine.stopRound listeners memory := by
  cases length : machine.runLength listeners memory with
  | top =>
    rw [runWithin_of_runLength_eq_top listeners machine memory length] at ends
    cases ends
  | coe k =>
    rw [runWithin_of_eq_runLength listeners machine memory length] at ends
    obtain ⟨_, same⟩ := Option.ite_none_right_eq_some.mp ends
    obtain rfl : machine.cause listeners memory k = halt := congrArg (·.1) (Option.some.inj same)
    obtain rfl : (result listeners machine memory k).2.1 = final :=
      congrArg (·.2.1) (Option.some.inj same)
    rw [overLimit_result_iff listeners machine memory length]
    exact budget_eq_iff_cause listeners machine memory k

/-- The stop after the second step wins over the budget of two, and the run is past its limit. -/
theorem runWithin_twoSteps :
    ∃ final, twoSteps.runWithin 3 [stopsAfterTwo] () = some (.cancelled, final, ()) ∧
      final.overLimit = true := by
  have ending : (twoSteps.runWithin 3 [stopsAfterTwo] ()).map
      (fun outcome => (outcome.1, outcome.2.1.overLimit)) = some (.cancelled, true) := by
    decide +kernel
  obtain ⟨⟨halt, final, remembered⟩, ends, same⟩ := Option.map_eq_some_iff.mp ending
  obtain ⟨rfl, past⟩ := Prod.mk.inj same
  exact ⟨final, ends, past⟩

theorem overLimit_iff_of_runWithin_stopped :
    ∃ final, twoSteps.runWithin 3 [stopsAfterTwo] () = some (.cancelled, final, ()) ∧
      final.overLimit = true ∧ twoSteps.budget = twoSteps.stopRound [stopsAfterTwo] () := by
  obtain ⟨final, ends, past⟩ := runWithin_twoSteps
  refine ⟨final, ends, past, ?_⟩
  rcases (overLimit_iff_of_runWithin _ _ final () _ _ 3 ends).mp past with budgeted | ⟨_, met⟩
  · cases budgeted
  · exact met

theorem not_overLimit_iff_stepLimit :
    ¬ ∀ (listeners : List (Listener Unit)) (machine final : Machine) (halt : Halt) (fuel : Nat),
      machine.runWithin fuel listeners () = some (halt, final, ()) →
        (final.overLimit = true ↔ halt = .stepLimit) := by
  intro law
  obtain ⟨final, ends, past⟩ := runWithin_twoSteps
  cases (law _ _ final _ 3 ends).mp past

end TuringScript.Machine
