import TuringScript.Proofs.Machine.LastLookup

/-!
# Interrupting and resuming

Where a machine is depends only on how many of its steps have found a rule, not on how they were
made: one at a time, or in runs that a listener stopped or that used up a budget. A run that is
resumed under a wider limit ends as if it had been made under that limit from the beginning.
-/
namespace TuringScript

variable {σ : Type}

/-- Calls that leave alone rules, tape and state, apart from the steps they make. -/
def Operation.Continues : Operation σ → Prop
  | .step | .run | .stop | .setLimit _ | .listen _ => True
  | .addRule _ | .read _ _ | .setTape _ | .clearTape | .setInitialState _ | .reset => False

/-- A look-up that found a rule, so that a step was made. -/
def Action.isStep : Action → Bool
  | .looked lookup => lookup.found.isSome
  | .inserted _ | .reset => false

namespace Machine

/-! ### Where steps lead -/

/-- The machine is where so many steps in a row lead from the start, all of which find a rule. -/
structure Reaches (start : Machine) (count : Nat) (machine : Machine) : Prop where
  moves : (count : ℕ∞) ≤ start.successes
  table_eq : machine.table = start.table
  configuration_eq : machine.configuration = (start.after count).configuration

theorem reaches_zero (start : Machine) : start.Reaches 0 start where
  moves := by simp
  table_eq := rfl
  configuration_eq := rfl

/-- Where a step leads depends on the rules and on where the machine is. -/
theorem step_congr {machine other : Machine} (table : other.table = machine.table)
    (same : other.configuration = machine.configuration) :
    other.step.1 = machine.step.1 ∧ other.step.2.configuration = machine.step.2.configuration := by
  obtain ⟨state, tape, steps, lastMove⟩ : other.state = machine.state ∧
      other.tape = machine.tape ∧ other.steps = machine.steps ∧
        other.lastMove = machine.lastMove := by
    simpa only [configuration, Prod.mk.injEq] using same
  have key : other.key = machine.key := by rw [key, key, state, tape]
  cases found : machine.table.lookup? machine.key with
  | none =>
    have missing : other.table.lookup? other.key = none := by rw [table, key, found]
    rw [step_of_lookup?_none found, step_of_lookup?_none missing]
    exact ⟨rfl, same⟩
  | some transition =>
    have matched : other.table.lookup? other.key = some transition := by rw [table, key, found]
    rw [step_of_lookup?_some found, step_of_lookup?_some matched]
    simp only [configuration, apply, tape, steps, and_self]

theorem isSome_lookup (machine : Machine) : machine.lookup.found.isSome = machine.step.1 := by
  rw [step_fst, ← Table.map_transition_find?, Option.isSome_map]
  rfl

namespace Reaches

variable {start machine other : Machine} {count : Nat}

theorem congr (reaches : start.Reaches count machine) (table : other.table = machine.table)
    (same : other.configuration = machine.configuration) : start.Reaches count other where
  moves := reaches.moves
  table_eq := table.trans reaches.table_eq
  configuration_eq := same.trans reaches.configuration_eq

/-- A step goes one further if it finds a rule, and stays where the machine is if it does not. -/
theorem step (reaches : start.Reaches count machine) :
    start.Reaches (count + if machine.step.1 then 1 else 0) machine.step.2 := by
  have table : machine.table = (start.after count).table := by
    rw [reaches.table_eq, after_table]
  obtain ⟨alike, next⟩ := step_congr table reaches.configuration_eq
  cases moved : machine.step.1 with
  | false => exact reaches.congr (step_table machine) (configuration_of_step_stuck moved)
  | true =>
    refine ⟨?_, (step_table machine).trans reaches.table_eq, ?_⟩
    · -- The steps up to here found a rule, and so does this one.
      refine (coe_le_least_iff _ _).mpr fun n below => ?_
      rcases Nat.lt_succ_iff_lt_or_eq.mp below with earlier | rfl
      · exact (coe_le_least_iff _ _).mp reaches.moves n earlier
      · rw [← alike, moved]
        decide
    · rw [next, if_pos rfl, after_succ]

theorem notify (reaches : start.Reaches count machine) (listeners : List (Listener σ))
    (notice : Notice) (memory : σ) :
    start.Reaches count (machine.notify listeners notice memory).1 := by
  have same := seen_notify_fst listeners notice machine memory
  exact reaches.congr (congrArg (·.table) same) (congrArg (·.configuration) same)

/-- However a run ends, it has gone as many steps further as its look-ups found rules. -/
theorem rounds {listeners : List (Listener σ)} {fuel : Nat} {memory remembered : σ} {halt : Halt}
    {final : Machine} (reaches : start.Reaches count machine)
    (ends : rounds listeners fuel machine memory = some (halt, final, remembered)) :
    start.Reaches
      (count + (roundLookups listeners fuel machine memory).countP (·.found.isSome)) final := by
  induction fuel generalizing machine memory count with
  | zero => simp [Machine.rounds] at ends
  | succ fuel ih =>
    have stepped := reaches.step
    -- A check ends the run, or a look-up in vain does, or a step is made and the run goes on.
    obtain ⟨_, rfl, none⟩ | ⟨_, stuck, rfl, one⟩ | ⟨next, heard, moved, told, later, more⟩ :=
      rounds_succ_cases ends
    · rw [none]
      exact reaches
    · rw [stuck] at stepped
      rw [one, List.countP_singleton, isSome_lookup, stuck]
      exact stepped
    · have shown := stepped.notify listeners .stepped memory
      rw [told, moved] at shown
      rw [more, List.countP_cons, isSome_lookup, moved, Nat.add_comm (List.countP _ _),
        ← Nat.add_assoc]
      exact ih shown later

theorem runWithin {listeners : List (Listener σ)} {fuel : Nat} {memory remembered : σ}
    {halt : Halt} {final : Machine} (reaches : start.Reaches count machine)
    (ends : machine.runWithin fuel listeners memory = some (halt, final, remembered)) :
    start.Reaches
      (count + (machine.runLookups fuel listeners memory).countP (·.found.isSome)) final := by
  simp only [Machine.runWithin] at ends
  obtain ⟨⟨cause, last, heard⟩, looped, same⟩ := Option.map_eq_some_iff.mp ends
  -- Neither the change of status nor the notifications touch the table or the configuration.
  have entered : start.Reaches count machine.running := reaches.congr rfl rfl
  have left := (entered.notify listeners .started memory).rounds looped
  have stopped : start.Reaches _ { last with status := .stopped } := left.congr rfl rfl
  obtain rfl : (finish listeners cause last heard).1 = final := congrArg (·.2.1) same
  exact stopped.notify listeners (.stopped cause) heard

end Reaches

end Machine

namespace Session

variable {fuel : Nat} {start : Machine} {session next final : Session σ}

theorem reaches_perform {count : Nat} (reaches : start.Reaches count session.machine)
    {call : Operation σ} (continues : call.Continues) {answer : Answer}
    (done : session.perform fuel call = some (answer, next)) :
    start.Reaches (count + (session.actions fuel call).countP Action.isStep) next.machine := by
  cases call with
  | run =>
    obtain ⟨⟨halt, machine, memory⟩, ends, same⟩ := Option.map_eq_some_iff.mp done
    cases same
    rw [actions, List.countP_map]
    exact reaches.runWithin ends
  | step =>
    cases done
    rw [actions, List.countP_singleton, Action.isStep, Machine.isSome_lookup]
    exact reaches.step
  | setLimit limit =>
    cases done
    simp only [update, Machine.setLimit_eq]
    exact reaches.congr rfl rfl
  | stop => cases done; exact reaches.congr rfl rfl
  | listen listener => cases done; exact reaches
  | addRule | read | setTape | clearTape | setInitialState | reset => cases continues

theorem reaches_follow {count : Nat} (reaches : start.Reaches count session.machine)
    (calls : List (Operation σ)) (continues : ∀ call ∈ calls, call.Continues)
    {actions : List Action} (done : session.follow fuel calls = some (final, actions)) :
    start.Reaches (count + actions.countP Action.isStep) final.machine := by
  induction calls generalizing session count actions with
  | nil =>
    cases done
    exact reaches
  | cons call calls ih =>
    obtain ⟨⟨answer, next⟩, performed, followed⟩ := Option.bind_eq_some_iff.mp done
    obtain ⟨⟨last, later⟩, rest, same⟩ := Option.map_eq_some_iff.mp followed
    cases same
    obtain ⟨first, others⟩ := List.forall_mem_cons.mp continues
    rw [List.countP_append, ← Nat.add_assoc]
    exact ih (reaches_perform reaches first performed) others rest

end Session

/-! ### Two limits -/

namespace Machine

/-- The machine in a run under a limit. -/
def under (limit : Nat) (machine : Machine) : Machine :=
  { machine with limit := some limit, stopRequested := false, status := .running }

theorem under_step (limit : Nat) (machine : Machine) :
    (machine.under limit).step = (machine.step.1, machine.step.2.under limit) := by
  cases found : machine.table.lookup? machine.key with
  | none =>
    have missing : (machine.under limit).table.lookup? (machine.under limit).key = none := found
    rw [step_of_lookup?_none found, step_of_lookup?_none missing]
    rfl
  | some transition =>
    have matched : (machine.under limit).table.lookup? (machine.under limit).key =
        some transition := found
    rw [step_of_lookup?_some found, step_of_lookup?_some matched]
    rfl

/-- A step that found no rule finds none again, and changes nothing more. -/
theorem step_step_of_stuck {machine : Machine} (stuck : machine.step.1 = false) :
    machine.step.2.step = (false, machine.step.2) := by
  rw [step_fst, Option.isSome_eq_false_iff, Option.isNone_iff_eq_none] at stuck
  have still : machine.step.2.table.lookup? machine.step.2.key = none := by
    rw [step_of_lookup?_none stuck]
    exact stuck
  rw [step_of_lookup?_none still, step_of_lookup?_none stuck]
  rfl

/-- A round of a run under a limit, with nobody to stop it. -/
theorem rounds_under (fuel limit : Nat) (machine : Machine) :
    rounds ([] : List (Listener Unit)) (fuel + 1) (machine.under limit) () =
      if limit < machine.steps then some (.stepLimit, machine.under limit, ())
      else if machine.step.1 then rounds [] fuel (machine.step.2.under limit) ()
      else some (.noRule, machine.step.2.under limit, ()) := by
  have unasked : (machine.under limit).stopRequested = false := rfl
  have exceeded : (machine.under limit).overLimit = decide (limit < machine.steps) := rfl
  rw [rounds, unasked, exceeded, under_step]
  simp only [Bool.false_eq_true, if_false, decide_eq_true_eq]
  cases machine.step.1 <;> rfl

/-- The rounds are over at the latest when the step counter has passed the limit. -/
theorem exists_rounds_under {fuel limit : Nat} {machine : Machine}
    (enough : limit + 1 - machine.steps < fuel) :
    ∃ halt last, rounds ([] : List (Listener Unit)) fuel (machine.under limit) () =
      some (halt, last, ()) := by
  induction fuel generalizing machine with
  | zero => exact absurd enough (Nat.not_lt_zero _)
  | succ fuel ih =>
    rw [rounds_under]
    split_ifs with exceeded moved
    · exact ⟨_, _, rfl⟩
    · -- The step has used up one round, and one step of what the limit leaves.
      apply ih
      rw [steps_of_step moved]
      omega
    · exact ⟨_, _, rfl⟩

/-- A run that ended under a limit can be resumed under a wider one. Both together are a run under
the wider limit from the beginning. -/
theorem rounds_resumed {fuel more limit wider : Nat} (widened : limit ≤ wider)
    {machine last final : Machine} {first halt : Halt}
    (ends : rounds ([] : List (Listener Unit)) fuel (machine.under limit) () =
      some (first, last, ()))
    (resumed : rounds ([] : List (Listener Unit)) more (last.under wider) () =
      some (halt, final, ())) :
    rounds ([] : List (Listener Unit)) (fuel + more) (machine.under wider) () =
      some (halt, final, ()) := by
  induction fuel generalizing machine with
  | zero => simp [rounds] at ends
  | succ fuel ih =>
    rw [rounds_under] at ends
    split_ifs at ends with exceeded moved
    · -- The first run ended on its budget, and the second begins where it ended.
      cases ends
      rw [Nat.add_comm]
      exact rounds_add [] more (fuel + 1) _ () resumed
    · rw [Nat.add_right_comm, rounds_under, if_neg (by omega), if_pos moved]
      exact ih ends
    · -- The second run looks for the rule that the first one missed, in vain once more.
      cases ends
      cases more with
      | zero => simp [rounds] at resumed
      | succ more =>
        rw [Bool.not_eq_true] at moved
        have steps : machine.step.2.steps = machine.steps :=
          congrArg (·.2.2.1) (configuration_of_step_stuck moved)
        have again : machine.step.2.step = (false, machine.step.2) := step_step_of_stuck moved
        change rounds _ (more + 1) (machine.step.2.under wider) () = _ at resumed
        rw [rounds_under, steps, if_neg (by omega), again] at resumed
        rw [← Nat.add_assoc, rounds_under, if_neg (by omega), moved]
        exact resumed

theorem runAlone_setLimit {limit : Nat} (positive : 1 ≤ limit) (fuel : Nat) (machine : Machine) :
    (machine.setLimit limit).runAlone fuel =
      (rounds ([] : List (Listener Unit)) fuel (machine.under limit) ()).map
        fun (halt, last, _) => (halt, { last with status := .stopped }) := by
  rw [setLimit, if_neg (by omega), runAlone, runWithin, Option.map_map]
  rfl

/-- Two runs that nobody listens to, the second under a limit that is at least as wide, come to the
same as one run under the wider limit. -/
theorem runAlone_resumed (machine : Machine) {limit wider fuel : Nat} (positive : 1 ≤ limit)
    (widened : limit ≤ wider) (enough : wider + 1 < fuel) :
    ∃ first mid halt final,
      (machine.setLimit limit).runAlone fuel = some (first, mid) ∧
      (mid.setLimit wider).runAlone fuel = some (halt, final) ∧
      (machine.setLimit wider).runAlone fuel = some (halt, final) := by
  obtain ⟨first, last, ends⟩ : ∃ first last, rounds [] fuel (machine.under limit) () =
      some (first, last, ()) := exists_rounds_under (by omega)
  obtain ⟨halt, final, resumed⟩ : ∃ halt final, rounds [] fuel (last.under wider) () =
      some (halt, final, ()) := exists_rounds_under (by omega)
  obtain ⟨other, single, whole⟩ : ∃ other single, rounds [] fuel (machine.under wider) () =
      some (other, single, ()) := exists_rounds_under (by omega)
  -- With fuel for both runs, the single run ends both ways, so these are the same.
  have both := rounds_resumed widened ends resumed
  rw [rounds_add [] fuel fuel _ () whole] at both
  cases both
  refine ⟨first, { last with status := .stopped }, halt, { final with status := .stopped }, ?_, ?_,
    ?_⟩
  · rw [runAlone_setLimit positive, ends]
    rfl
  · rw [runAlone_setLimit (le_trans positive widened)]
    change (rounds [] fuel (last.under wider) ()).map _ = _
    rw [resumed]
    rfl
  · rw [runAlone_setLimit (le_trans positive widened), whole]
    rfl

end Machine

namespace Session

/-- Interrupting and resuming never changes the computation. However single steps, runs that come to
an end, stops, limits and new listeners follow each other, the machine is then where as many steps
in a row take it as have found a rule. And two runs without listeners, the second under a limit that
is at least as wide as that of the first, end with the halt and in the machine in which one run
under the wider limit ends. -/
theorem follow_keeps_course :
    (∀ (session final : Session σ) (calls : List (Operation σ)) (actions : List Action)
      (fuel : Nat), (∀ call ∈ calls, call.Continues) →
      session.follow fuel calls = some (final, actions) →
        (∀ n < actions.countP Action.isStep, (session.machine.after n).step.1 = true) ∧
        final.machine.configuration =
          (session.machine.after (actions.countP Action.isStep)).configuration) ∧
    (∀ (machine : Machine) (limit wider : Nat), 1 ≤ limit → limit ≤ wider →
      ∀ fuel, wider + 1 < fuel → ∃ first mid halt final,
        (machine.setLimit limit).runAlone fuel = some (first, mid) ∧
        (mid.setLimit wider).runAlone fuel = some (halt, final) ∧
        (machine.setLimit wider).runAlone fuel = some (halt, final)) := by
  constructor
  · intro session final calls actions fuel continues done
    have reaches := reaches_follow (Machine.reaches_zero session.machine) calls continues done
    rw [Nat.zero_add] at reaches
    refine ⟨?_, reaches.configuration_eq⟩
    intro n below
    simpa using (Machine.coe_le_least_iff _ _).mp reaches.moves n below
  · intro machine limit wider positive widened fuel enough
    exact machine.runAlone_resumed positive widened enough

/-- A step, a run that is stopped halfway, and one that is stopped before it makes a step. -/
def interrupted : List (Operation Unit) :=
  [.step, .listen Machine.stopsAfterTwo, .run, .setLimit 5, .stop, .run]

theorem follow_keeps_course_interrupted :
    (∃ final actions, (ofMachine Machine.twoSteps ()).follow 9 interrupted =
        some (final, actions) ∧
      final.machine.configuration = (Machine.twoSteps.after 2).configuration) ∧
    ∃ first mid halt final,
      (Machine.twoSteps.setLimit 1).runAlone 5 = some (first, mid) ∧
      (mid.setLimit 3).runAlone 5 = some (halt, final) ∧
      (Machine.twoSteps.setLimit 3).runAlone 5 = some (halt, final) := by
  obtain ⟨course, resumed⟩ := follow_keeps_course (σ := Unit)
  have happened : ((ofMachine Machine.twoSteps ()).follow 9 interrupted).map
      (·.2.countP Action.isStep) = some 2 := by decide +kernel
  obtain ⟨⟨final, actions⟩, done, counted⟩ := Option.map_eq_some_iff.mp happened
  have continues : ∀ call ∈ interrupted, call.Continues := by
    simp [interrupted, Operation.Continues]
  have arrived := (course _ final interrupted actions 9 continues done).2
  rw [counted] at arrived
  exact ⟨⟨final, actions, done, arrived⟩,
    resumed Machine.twoSteps 1 3 (by decide) (by decide) 5 (by decide)⟩

end Session
end TuringScript
