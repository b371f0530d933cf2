import Mathlib.Logic.Function.Iterate
import TuringScript.Machine.Basic

/-!
# Stepping

What one step does, and the machine after any number of them. A step that finds no rule changes
nothing but the remembered key, so every step after it finds none either.
-/
namespace TuringScript.Machine

theorem step_of_lookup?_some {machine : Machine} {transition : Transition}
    (found : machine.table.lookup? machine.key = some transition) :
    machine.step =
      (true, { machine with lastKey := some machine.key }.apply transition) := by
  simp only [step, found]

theorem step_of_lookup?_none {machine : Machine}
    (missing : machine.table.lookup? machine.key = none) :
    machine.step = (false, { machine with lastKey := some machine.key }) := by
  simp only [step, missing]

theorem step_fst (machine : Machine) :
    machine.step.1 = (machine.table.lookup? machine.key).isSome := by
  cases found : machine.table.lookup? machine.key with
  | none => simp [step_of_lookup?_none found]
  | some transition => simp [step_of_lookup?_some found]

/-- The machine after `count` calls of `step`, whether or not they find a rule. -/
def after (count : Nat) (machine : Machine) : Machine :=
  (fun machine => machine.step.2)^[count] machine

theorem after_succ (count : Nat) (machine : Machine) :
    machine.after (count + 1) = (machine.after count).step.2 :=
  Function.iterate_succ_apply' _ _ _

/-! ### What a step leaves alone -/

@[simp] theorem step_table (machine : Machine) : machine.step.2.table = machine.table := by
  unfold step
  split <;> rfl

@[simp] theorem step_limit (machine : Machine) : machine.step.2.limit = machine.limit := by
  unfold step
  split <;> rfl

@[simp] theorem step_stopRequested (machine : Machine) :
    machine.step.2.stopRequested = machine.stopRequested := by
  unfold step
  split <;> rfl

@[simp] theorem after_table (count : Nat) (machine : Machine) :
    (machine.after count).table = machine.table := by
  induction count with
  | zero => rfl
  | succ count ih => rw [after_succ, step_table, ih]

end TuringScript.Machine
