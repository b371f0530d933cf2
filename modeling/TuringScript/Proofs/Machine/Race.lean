import Mathlib.Data.ENat.Lattice
import TuringScript.Proofs.Machine.Notification

/-!
# The race that ends a run

A run ends when no rule applies, when its step budget is used up or when a listener has asked for a
stop, whichever comes first. Each of the three is a number of steps, infinite if it never comes; the
run takes as many steps as the least of them says, and of causes that come together the stop wins
over the budget and the budget over the missing rule.
-/
namespace TuringScript.Machine

variable {σ : Type}

/-! ### Three numbers of steps -/

/-- The least number with a property, infinite if no number has it. -/
noncomputable def least (property : Nat → Prop) : ℕ∞ :=
  ⨅ (n : ℕ) (_ : property n), (n : ℕ∞)

theorem coe_le_least_iff (property : Nat → Prop) (k : ℕ) :
    (k : ℕ∞) ≤ least property ↔ ∀ n < k, ¬ property n := by
  simp only [least, le_iInf_iff, Nat.cast_le]
  constructor
  · intro bound n below holds
    exact absurd (bound n holds) (Nat.not_le.mpr below)
  · intro fails n holds
    by_contra above
    exact fails n (Nat.not_le.mp above) holds

/-- At a number that no smaller one precedes, being the least is having the property. -/
theorem least_eq_coe_iff {property : Nat → Prop} {k : ℕ} (bound : (k : ℕ∞) ≤ least property) :
    least property = k ↔ property k := by
  constructor
  · intro equal
    by_contra fails
    -- Otherwise no number up to `k` has the property, and the least one is beyond it.
    have next : ((k + 1 : ℕ) : ℕ∞) ≤ least property := by
      rw [coe_le_least_iff] at bound ⊢
      intro n below
      rcases Nat.lt_succ_iff_lt_or_eq.mp below with earlier | rfl
      · exact bound n earlier
      · exact fails
    rw [equal, Nat.cast_le] at next
    omega
  · intro holds
    exact le_antisymm (iInf₂_le k holds) bound

/-- The number of steps in a row that find a rule. -/
noncomputable def successes (machine : Machine) : ℕ∞ :=
  least fun n => (machine.after n).step.1 = false

/-- The number of steps until the step counter is past the limit. -/
def budget (machine : Machine) : ℕ∞ :=
  match machine.limit with
  | none => ⊤
  | some limit => ((limit + 1 - machine.steps : ℕ) : ℕ∞)

/-- The machine as its listeners find it when a run starts. -/
def running (machine : Machine) : Machine :=
  { machine with stopRequested := false, status := .running }

/-- Round zero tells that the run starts, round `n` that it has made its `n`-th step. -/
def roundNotice : Nat → Notice
  | 0 => .started
  | _ + 1 => .stepped

/-- The memory before a round, if the listeners were told about every step up to it. -/
def memoryBefore (listeners : List (Listener σ)) (machine : Machine) (memory : σ) : Nat → σ
  | 0 => memory
  | n + 1 => ((machine.running.after n).notify listeners (roundNotice n)
      (memoryBefore listeners machine memory n)).2

/-- Whether some listener asks for a stop in a round. -/
def asksIn (listeners : List (Listener σ)) (machine : Machine) (memory : σ) (n : Nat) : Prop :=
  (machine.running.after n).asks listeners (roundNotice n)
    (machine.memoryBefore listeners memory n) = true

/-- The first round in which some listener asks for a stop. -/
noncomputable def stopRound (listeners : List (Listener σ)) (machine : Machine) (memory : σ) : ℕ∞ :=
  least (machine.asksIn listeners memory)

/-- The number of steps after which a run ends. -/
noncomputable def runLength (listeners : List (Listener σ)) (machine : Machine) (memory : σ) : ℕ∞ :=
  min (min machine.successes machine.budget) (machine.stopRound listeners memory)

/-- The cause that ends a run of `k` steps. -/
noncomputable def cause (listeners : List (Listener σ)) (machine : Machine) (memory : σ)
    (k : Nat) : Halt :=
  if machine.stopRound listeners memory = k then .cancelled
  else if machine.budget = k then .stepLimit
  else .noRule

/-! ### What a run leaves behind -/

/-- State, tape with head, step counter and last move. -/
def configuration (machine : Machine) : String × Tape × Nat × Option Direction :=
  (machine.state, machine.tape, machine.steps, machine.lastMove)

/-- The machine after a run of `k` steps. For lack of a rule, it has looked for one in vain. -/
def ended (machine : Machine) (halt : Halt) (k : Nat) : Machine :=
  { machine.running.after (if halt = .noRule then k + 1 else k) with status := .stopped }

/-- What `count` listeners hear of a run of `k` steps. -/
def hearings (count : Nat) (machine : Machine) (halt : Halt) (k : Nat) : List Hearing :=
  (List.range (k + 1)).flatMap
      (fun n => Hearing.round 0 count (roundNotice n) (machine.running.after n)) ++
    Hearing.round 0 count (.stopped halt) (machine.ended halt k)

/-! ### The machine in the rounds of a run -/

@[simp] theorem after_stopRequested (count : Nat) (machine : Machine) :
    (machine.after count).stopRequested = machine.stopRequested := by
  induction count with
  | zero => rfl
  | succ count ih => rw [after_succ, step_stopRequested, ih]

@[simp] theorem after_limit (count : Nat) (machine : Machine) :
    (machine.after count).limit = machine.limit := by
  induction count with
  | zero => rfl
  | succ count ih => rw [after_succ, step_limit, ih]

@[simp] theorem running_stopRequested (machine : Machine) :
    machine.running.stopRequested = false := rfl

theorem running_step (machine : Machine) :
    machine.running.step = (machine.step.1, machine.step.2.running) := by
  have same : machine.running.table.lookup? machine.running.key =
      machine.table.lookup? machine.key := rfl
  cases found : machine.table.lookup? machine.key with
  | none =>
    rw [step_of_lookup?_none found, step_of_lookup?_none (same.trans found)]
    rfl
  | some transition =>
    rw [step_of_lookup?_some found, step_of_lookup?_some (same.trans found)]
    rfl

/-- Steps go the same way during a run and outside of one. -/
theorem running_after (count : Nat) (machine : Machine) :
    machine.running.after count = (machine.after count).running := by
  induction count with
  | zero => rfl
  | succ count ih => rw [after_succ, after_succ, ih, running_step]

theorem steps_of_step {machine : Machine} (moved : machine.step.1 = true) :
    machine.step.2.steps = machine.steps + 1 := by
  rw [step_fst] at moved
  obtain ⟨transition, found⟩ := Option.isSome_iff_exists.mp moved
  rw [step_of_lookup?_some found]
  rfl

theorem steps_after {machine : Machine} {count : Nat} (moves : (count : ℕ∞) ≤ machine.successes) :
    (machine.after count).steps = machine.steps + count := by
  induction count with
  | zero => rfl
  | succ count ih =>
    have earlier : (count : ℕ∞) ≤ machine.successes :=
      le_trans (Nat.cast_le.mpr (Nat.le_succ count)) moves
    have moved := (coe_le_least_iff _ _).mp moves count (Nat.lt_succ_self count)
    rw [after_succ, steps_of_step (by simpa using moved), ih earlier, Nat.add_assoc]

/-- Past the limit is where the budget is used up. -/
theorem overLimit_after_iff {machine : Machine} {count : Nat}
    (moves : (count : ℕ∞) ≤ machine.successes) :
    (machine.after count).overLimit = true ↔ machine.budget ≤ count := by
  have steps := steps_after moves
  unfold overLimit budget
  rw [after_limit, steps]
  cases machine.limit with
  | none => simp
  | some limit =>
    simp only [decide_eq_true_eq, Nat.cast_le]
    omega

theorem configuration_of_step_stuck {machine : Machine} (stuck : machine.step.1 = false) :
    machine.step.2.configuration = machine.configuration := by
  rw [step_fst, Option.isSome_eq_false_iff, Option.isNone_iff_eq_none] at stuck
  rw [step_of_lookup?_none stuck]
  rfl

/-! ### The loop -/

section Loop

variable (listeners : List (Listener σ)) (machine : Machine) (memory : σ)

/-- Machine and memory when the loop of a run makes its checks after round `n`. -/
def atCheck (n : Nat) : Machine × σ :=
  (machine.running.after n).notify listeners (roundNotice n)
    (machine.memoryBefore listeners memory n)

theorem atCheck_fst_of_asksIn {n : Nat} (asked : machine.asksIn listeners memory n) :
    (atCheck listeners machine memory n).1 = (machine.running.after n).requestStop := by
  rw [atCheck, notify_fst]
  exact if_pos asked

theorem atCheck_fst_of_not_asksIn {n : Nat} (silent : ¬ machine.asksIn listeners memory n) :
    (atCheck listeners machine memory n).1 = machine.running.after n := by
  rw [atCheck, notify_fst]
  exact if_neg silent

theorem rounds_of_asksIn {n : Nat} (fuel : Nat) (asked : machine.asksIn listeners memory n) :
    rounds listeners (fuel + 1) (atCheck listeners machine memory n).1
        (atCheck listeners machine memory n).2 =
      some (.cancelled, (atCheck listeners machine memory n).1,
        machine.memoryBefore listeners memory (n + 1)) := by
  have requested : (atCheck listeners machine memory n).1.stopRequested = true := by
    rw [atCheck_fst_of_asksIn listeners machine memory asked]
    rfl
  rw [rounds, if_pos requested]
  rfl

variable {n : Nat} (fuel : Nat) (silent : ¬ machine.asksIn listeners memory n)
include silent

theorem rounds_of_overLimit (exceeded : (machine.running.after n).overLimit = true) :
    rounds listeners (fuel + 1) (atCheck listeners machine memory n).1
        (atCheck listeners machine memory n).2 =
      some (.stepLimit, (atCheck listeners machine memory n).1,
        machine.memoryBefore listeners memory (n + 1)) := by
  rw [rounds, atCheck_fst_of_not_asksIn listeners machine memory silent, if_neg (by simp),
    if_pos exceeded]
  rfl

variable (within : (machine.running.after n).overLimit = false)
include within

theorem rounds_of_stuck (stuck : (machine.running.after n).step.1 = false) :
    rounds listeners (fuel + 1) (atCheck listeners machine memory n).1
        (atCheck listeners machine memory n).2 =
      some (.noRule, machine.running.after (n + 1),
        machine.memoryBefore listeners memory (n + 1)) := by
  rw [rounds, atCheck_fst_of_not_asksIn listeners machine memory silent, if_neg (by simp),
    if_neg (by simp [within]), after_succ]
  rcases stepped : (machine.running.after n).step with ⟨moved, next⟩
  rw [stepped] at stuck
  cases stuck
  rfl

/-- With nothing to end the run, it goes on to the next check. -/
theorem rounds_of_moved (moved : (machine.running.after n).step.1 = true) :
    rounds listeners (fuel + 1) (atCheck listeners machine memory n).1
        (atCheck listeners machine memory n).2 =
      rounds listeners fuel (atCheck listeners machine memory (n + 1)).1
        (atCheck listeners machine memory (n + 1)).2 := by
  rw [rounds, atCheck_fst_of_not_asksIn listeners machine memory silent, if_neg (by simp),
    if_neg (by simp [within])]
  conv_rhs => rw [atCheck, after_succ]
  rcases stepped : (machine.running.after n).step with ⟨flag, next⟩
  rw [stepped] at moved
  cases moved
  rfl

end Loop

section Ending

variable (listeners : List (Listener σ)) (machine : Machine) (memory : σ)

/-- As long as nothing has ended the run, every round of fuel takes it to the next check. -/
theorem rounds_of_le_runLength (fuel n : Nat)
    (goesOn : (n : ℕ∞) ≤ machine.runLength listeners memory) :
    rounds listeners (fuel + n) (atCheck listeners machine memory 0).1
        (atCheck listeners machine memory 0).2 =
      rounds listeners fuel (atCheck listeners machine memory n).1
        (atCheck listeners machine memory n).2 := by
  induction n generalizing fuel with
  | zero => rfl
  | succ n ih =>
    -- None of the three numbers is `n`, so the check after round `n` passes.
    have earlier : (n : ℕ∞) ≤ machine.runLength listeners memory :=
      le_trans (Nat.cast_le.mpr (Nat.le_succ n)) goesOn
    obtain ⟨⟨moves, budgeted⟩, unasked⟩ := by simpa only [runLength, le_min_iff] using goesOn
    have silent : ¬ machine.asksIn listeners memory n :=
      (coe_le_least_iff _ _).mp unasked n (Nat.lt_succ_self n)
    have moved : (machine.running.after n).step.1 = true := by
      rw [running_after, running_step]
      simpa using (coe_le_least_iff _ _).mp moves n (Nat.lt_succ_self n)
    have within : (machine.running.after n).overLimit = false := by
      have before : (n : ℕ∞) ≤ machine.successes :=
        le_trans (Nat.cast_le.mpr (Nat.le_succ n)) moves
      have left : ¬ machine.budget ≤ n := fun used =>
        absurd (Nat.cast_le.mp (le_trans budgeted used)) (Nat.not_succ_le_self n)
      rw [← overLimit_after_iff before, Bool.not_eq_true] at left
      rw [running_after]
      exact left
    rw [← Nat.add_assoc, Nat.add_right_comm, ih (fuel + 1) earlier,
      rounds_of_moved listeners machine memory fuel silent within moved]

/-- If neither the stop nor the budget ends the run, it is the missing rule. -/
theorem successes_of_ne {k : Nat} (length : machine.runLength listeners memory = k)
    (unasked : machine.stopRound listeners memory ≠ k) (unused : machine.budget ≠ k) :
    machine.successes = k := by
  rw [runLength, min_eq_iff, min_eq_iff] at length
  rcases length with ⟨⟨found, _⟩ | ⟨found, _⟩, _⟩ | ⟨found, _⟩
  · exact found
  · exact absurd found unused
  · exact absurd found unasked

/-- The machine when the loop of a run of `k` steps is left. -/
noncomputable def lastInLoop (k : Nat) : Machine :=
  if machine.cause listeners memory k = .noRule then machine.running.after (k + 1)
  else (atCheck listeners machine memory k).1

/-- A run that is not to go on ends at the next check, for the first cause in order. -/
theorem rounds_of_eq_runLength {k : Nat} (length : machine.runLength listeners memory = k)
    (fuel : Nat) :
    rounds listeners (fuel + 1) (atCheck listeners machine memory k).1
        (atCheck listeners machine memory k).2 =
      some (machine.cause listeners memory k, lastInLoop listeners machine memory k,
        machine.memoryBefore listeners memory (k + 1)) := by
  obtain ⟨⟨moves, budgeted⟩, unasked⟩ : ((k : ℕ∞) ≤ machine.successes ∧
      (k : ℕ∞) ≤ machine.budget) ∧ (k : ℕ∞) ≤ machine.stopRound listeners memory := by
    simpa only [runLength, le_min_iff] using length.ge
  have exceeded := overLimit_after_iff moves
  have same : (machine.running.after k).overLimit = (machine.after k).overLimit := by
    rw [running_after]
    rfl
  unfold lastInLoop cause
  -- The cases come in the order in which the loop makes its checks.
  by_cases asked : machine.stopRound listeners memory = k
  · rw [if_pos asked]
    exact rounds_of_asksIn listeners machine memory fuel ((least_eq_coe_iff unasked).mp asked)
  · have silent := mt (least_eq_coe_iff unasked).mpr asked
    rw [if_neg asked]
    by_cases used : machine.budget = k
    · rw [if_pos used]
      exact rounds_of_overLimit listeners machine memory fuel silent
        (same.trans (exceeded.mpr used.le))
    · have within : (machine.running.after k).overLimit = false := by
        rw [same, ← Bool.not_eq_true, exceeded]
        exact fun most => used (le_antisymm most budgeted)
      have stuck := successes_of_ne listeners machine memory length asked used
      have vain := (least_eq_coe_iff moves).mp stuck
      rw [if_neg used, if_pos rfl]
      refine rounds_of_stuck listeners machine memory fuel silent within ?_
      rw [running_after, running_step]
      exact vain

/-- What a run of `k` steps returns. -/
noncomputable def result (k : Nat) : Halt × Machine × σ :=
  (machine.cause listeners memory k,
    finish listeners (machine.cause listeners memory k) (lastInLoop listeners machine memory k)
      (machine.memoryBefore listeners memory (k + 1)))

theorem runWithin_of_eq_runLength {k : Nat} (length : machine.runLength listeners memory = k)
    (fuel : Nat) :
    machine.runWithin fuel listeners memory =
      if k < fuel then some (result listeners machine memory k) else none := by
  change (rounds listeners fuel (atCheck listeners machine memory 0).1
    (atCheck listeners machine memory 0).2).map _ = _
  split
  next enough =>
    -- `k` rounds of fuel to reach the last check, and one to make it.
    obtain ⟨spare, rfl⟩ : ∃ spare, fuel = spare + 1 + k := ⟨fuel - 1 - k, by omega⟩
    rw [rounds_of_le_runLength listeners machine memory _ k length.ge,
      rounds_of_eq_runLength listeners machine memory length]
    rfl
  next short =>
    have bound : (fuel : ℕ∞) ≤ machine.runLength listeners memory := by
      rw [length, Nat.cast_le]
      omega
    have out := rounds_of_le_runLength listeners machine memory 0 fuel bound
    rw [Nat.zero_add] at out
    rw [out]
    rfl

/-- A run that nothing ends has no result. -/
theorem runWithin_of_runLength_eq_top (endless : machine.runLength listeners memory = ⊤)
    (fuel : Nat) : machine.runWithin fuel listeners memory = none := by
  change (rounds listeners fuel (atCheck listeners machine memory 0).1
    (atCheck listeners machine memory 0).2).map _ = _
  have out := rounds_of_le_runLength listeners machine memory 0 fuel (endless ▸ le_top)
  rw [Nat.zero_add] at out
  rw [out]
  rfl

theorem seen_atCheck_fst (n : Nat) :
    (atCheck listeners machine memory n).1.seen = machine.running.after n := by
  rw [atCheck, seen_notify_fst, running_after]
  rfl

theorem seen_lastInLoop (k : Nat) :
    (lastInLoop listeners machine memory k).seen =
      machine.running.after (if machine.cause listeners memory k = .noRule then k + 1 else k) := by
  unfold lastInLoop
  split
  · rw [running_after]
    rfl
  · exact seen_atCheck_fst listeners machine memory k

theorem seen_result (k : Nat) :
    (result listeners machine memory k).2.1.seen =
      machine.ended (machine.cause listeners memory k) k := by
  rw [result, finish, seen_notify_fst, ended, ← seen_lastInLoop]
  rfl

/-- A run of `k` steps is in the configuration of `k` steps: looking in vain does not change it. -/
theorem configuration_result {k : Nat} (length : machine.runLength listeners memory = k) :
    (result listeners machine memory k).2.1.configuration = (machine.after k).configuration := by
  have visible (other : Machine) : other.seen.configuration = other.configuration := rfl
  rw [← visible, seen_result, ended]
  change (machine.running.after _).configuration = _
  rw [running_after]
  change (machine.after _).configuration = _
  split
  -- For lack of a rule one more step was tried, which did not change the configuration.
  next vain =>
    have moves : (k : ℕ∞) ≤ machine.successes := by
      rw [← length]
      exact (min_le_left _ _).trans (min_le_left _ _)
    have stuck : machine.successes = k := by
      unfold cause at vain
      split_ifs at vain with asked used
      exact successes_of_ne listeners machine memory length asked used
    rw [after_succ, configuration_of_step_stuck ((least_eq_coe_iff moves).mp stuck)]
  · rfl

end Ending

/-! ### What the listeners hear -/

section Recording

variable (listeners : List (Listener σ)) (machine : Machine) (memory : σ)

theorem memoryBefore_recordingFrom (n : Nat) :
    machine.memoryBefore (Listener.recordingFrom 0 listeners) (memory, []) n =
      (machine.memoryBefore listeners memory n, (List.range n).flatMap fun j =>
        Hearing.round 0 listeners.length (roundNotice j) (machine.running.after j)) := by
  induction n with
  | zero => rfl
  | succ n ih => simp [memoryBefore, ih, notify_recordingFrom, List.range_succ]

theorem asksIn_recordingFrom (n : Nat) :
    machine.asksIn (Listener.recordingFrom 0 listeners) (memory, []) n ↔
      machine.asksIn listeners memory n := by
  rw [asksIn, memoryBefore_recordingFrom, asks_recordingFrom, asksIn]

theorem stopRound_recordingFrom :
    machine.stopRound (Listener.recordingFrom 0 listeners) (memory, []) =
      machine.stopRound listeners memory := by
  unfold stopRound
  congr 1
  funext n
  exact propext (asksIn_recordingFrom listeners machine memory n)

theorem runLength_recordingFrom :
    machine.runLength (Listener.recordingFrom 0 listeners) (memory, []) =
      machine.runLength listeners memory := by
  rw [runLength, stopRound_recordingFrom, runLength]

theorem cause_recordingFrom (k : Nat) :
    machine.cause (Listener.recordingFrom 0 listeners) (memory, []) k =
      machine.cause listeners memory k := by
  rw [cause, stopRound_recordingFrom, cause]

theorem lastInLoop_recordingFrom (k : Nat) :
    lastInLoop (Listener.recordingFrom 0 listeners) machine (memory, []) k =
      lastInLoop listeners machine memory k := by
  unfold lastInLoop
  rw [cause_recordingFrom, atCheck, memoryBefore_recordingFrom, notify_recordingFrom, atCheck]

/-- A run with recording listeners is the same run, with the record of what was heard. -/
theorem result_recordingFrom (k : Nat) :
    result (Listener.recordingFrom 0 listeners) machine (memory, []) k =
      ((result listeners machine memory k).1, (result listeners machine memory k).2.1,
        (result listeners machine memory k).2.2,
        machine.hearings listeners.length (machine.cause listeners memory k) k) := by
  have last : Hearing.round 0 listeners.length (.stopped (machine.cause listeners memory k))
      { lastInLoop listeners machine memory k with status := .stopped } =
      Hearing.round 0 listeners.length (.stopped (machine.cause listeners memory k))
        (machine.ended (machine.cause listeners memory k) k) := by
    have shown := seen_lastInLoop listeners machine memory k
    unfold Hearing.round ended
    rw [← shown]
    rfl
  unfold result finish hearings
  rw [cause_recordingFrom, lastInLoop_recordingFrom, memoryBefore_recordingFrom,
    notify_recordingFrom, last]

end Recording

/-- How a run ends. If the least of the three numbers of steps is a number `k`, the run ends after
`k` steps in their configuration, given rounds enough to make its last check, and tells which cause
came first. Its listeners hear, each in order of registration, that it starts, every step in the
configuration after it, and that it has ended, and nothing else. If the three numbers are infinite
the run never ends. Whether a stop was requested before does not matter. -/
theorem runWithin_ends_with_race (listeners : List (Listener σ)) (machine : Machine) (memory : σ) :
    (∀ k : ℕ, machine.runLength listeners memory = k →
      ∃ final remembered,
        final.configuration = (machine.after k).configuration ∧
        final.seen = machine.ended (machine.cause listeners memory k) k ∧
        (∀ fuel, machine.runWithin fuel listeners memory =
          if k < fuel then some (machine.cause listeners memory k, final, remembered)
          else none) ∧
        (∀ fuel, machine.runWithin fuel (Listener.recordingFrom 0 listeners) (memory, []) =
          if k < fuel then some (machine.cause listeners memory k, final, remembered,
            machine.hearings listeners.length (machine.cause listeners memory k) k)
          else none)) ∧
    (machine.runLength listeners memory = ⊤ →
      ∀ fuel, machine.runWithin fuel listeners memory = none) := by
  constructor
  · intro k length
    refine ⟨(result listeners machine memory k).2.1, (result listeners machine memory k).2.2,
      configuration_result listeners machine memory length,
      seen_result listeners machine memory k,
      runWithin_of_eq_runLength listeners machine memory length, ?_⟩
    intro fuel
    have same := (runLength_recordingFrom listeners machine memory).trans length
    rw [runWithin_of_eq_runLength _ machine _ same, result_recordingFrom]
    rfl
  · exact runWithin_of_runLength_eq_top listeners machine memory

/-- A machine with rules for two steps and a budget of two. -/
def twoSteps : Machine :=
  (ofTable (.ofRules
    [⟨⟨"0", ' '⟩, ⟨"1", ' ', .right⟩, 1⟩, ⟨⟨"1", ' '⟩, ⟨"2", ' ', .right⟩, 2⟩])).setLimit 1

/-- A listener that asks for a stop after the second step. -/
def stopsAfterTwo : Listener Unit where
  respond _ machine memory := (memory, machine.steps == 2)

/-- All three causes come after the second step, and the stop wins. -/
theorem runWithin_ends_with_race_all_at_once :
    twoSteps.runLength [stopsAfterTwo] () = (2 : ℕ) ∧
    ∃ final, final.configuration = (twoSteps.after 2).configuration ∧
      twoSteps.runWithin 3 [stopsAfterTwo] () = some (.cancelled, final, ()) := by
  have stuck : twoSteps.successes = (2 : ℕ) := by
    refine (least_eq_coe_iff ((coe_le_least_iff _ _).mpr ?_)).mpr ?_ <;> decide +kernel
  have asked : twoSteps.stopRound [stopsAfterTwo] () = (2 : ℕ) := by
    refine (least_eq_coe_iff ((coe_le_least_iff _ _).mpr ?_)).mpr ?_ <;>
      · unfold asksIn
        decide +kernel
  have used : twoSteps.budget = (2 : ℕ) := rfl
  have length : twoSteps.runLength [stopsAfterTwo] () = (2 : ℕ) := by
    rw [runLength, stuck, asked, used, min_self, min_self]
  refine ⟨length, ?_⟩
  obtain ⟨final, remembered, same, _, ends, _⟩ :=
    (runWithin_ends_with_race [stopsAfterTwo] twoSteps ()).1 2 length
  refine ⟨final, same, ?_⟩
  rw [ends 3, if_pos (by decide), cause, if_pos asked]

end TuringScript.Machine
