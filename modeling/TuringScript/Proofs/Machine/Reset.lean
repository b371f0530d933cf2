import TuringScript.Proofs.Machine.LastLookup
import TuringScript.Proofs.Machine.Replay

/-!
# Reset

A reset returns to what the machine was given: rules, the initial tape and state, and a limit.
Everything else that it has is what a new machine has. So a machine that was reset cannot be told
from a new one that was given the same.
-/
namespace TuringScript

variable {σ : Type}

/-! ### What can be told of a machine -/

/-- All that a machine tells when asked. -/
structure Snapshot where
  state : String
  initialState : String
  steps : Nat
  tape : String
  head : Nat
  limit : Option Nat
  status : Status
  lastMove : Option Direction
  debugLine : Option Nat
  overLimit : Bool
  deriving DecidableEq, Repr

def Machine.snapshot (machine : Machine) : Snapshot where
  state := machine.state
  initialState := machine.initialState
  steps := machine.steps
  tape := machine.tape.contents
  head := machine.tape.headIndex
  limit := machine.limit
  status := machine.status
  lastMove := machine.lastMove
  debugLine := machine.debugLine
  overLimit := machine.overLimit

/-- What a call returns, what the machine then tells, and what was heard in between. -/
structure Observation where
  answer : Answer
  snapshot : Snapshot
  heard : List Hearing

namespace Session

/-- What the listeners hear of a call. Only runs are told about. -/
def heard (fuel : Nat) (session : Session σ) : Operation σ → List Hearing
  | .run =>
    (session.machine.runWithin fuel (Listener.recordingFrom 0 session.listeners)
      (session.memory, [])).elim [] (·.2.2.2)
  | _ => []

/-- What can be observed of some calls, up to the first that takes too long. -/
def transcript (fuel : Nat) (session : Session σ) : List (Operation σ) → List Observation
  | [] => []
  | call :: calls =>
    match session.perform fuel call with
    | none => []
    | some (answer, next) =>
      ⟨answer, next.machine.snapshot, session.heard fuel call⟩ :: next.transcript fuel calls

/-- The session after some calls; nothing if a run takes too long. -/
def reach (fuel : Nat) (session : Session σ) (calls : List (Operation σ)) : Option (Session σ) :=
  (session.follow fuel calls).map Prod.fst

end Session

/-! ### What a machine is given -/

namespace Machine

/-- Rules, initial tape, initial state and limit: what a reset leaves alone. -/
def setup (machine : Machine) : Table × String × String × Option Nat :=
  (machine.table, machine.initialTape, machine.initialState, machine.limit)

/-- A reset depends on nothing else. -/
theorem reset_congr {machine other : Machine} (same : other.setup = machine.setup) :
    other.reset = machine.reset := by
  obtain ⟨table, tape, state, limit⟩ : other.table = machine.table ∧
      other.initialTape = machine.initialTape ∧ other.initialState = machine.initialState ∧
        other.limit = machine.limit := by
    simpa only [setup, Prod.mk.injEq] using same
  simp only [reset, table, tape, state, limit]

theorem setup_step (machine : Machine) : machine.step.2.setup = machine.setup := by
  simp only [step]
  split <;> rfl

theorem setup_after (count : Nat) (machine : Machine) :
    (machine.after count).setup = machine.setup := by
  induction count with
  | zero => rfl
  | succ count ih => rw [after_succ, setup_step, ih]

theorem setup_runWithin {listeners : List (Listener σ)} {machine final : Machine}
    {memory remembered : σ} {halt : Halt} {fuel : Nat}
    (ends : machine.runWithin fuel listeners memory = some (halt, final, remembered)) :
    final.setup = machine.setup := by
  obtain ⟨k, _, _, same⟩ := eq_result_of_runWithin ends
  obtain rfl : final = (result listeners machine memory k).2.1 := congrArg (·.2.1) same
  -- But for a requested stop, the machine is the one that some steps lead to.
  have shown := congrArg setup (seen_result listeners machine memory k)
  exact shown.trans (setup_after _ machine.running)

/-- A reset goes back to a tape of the given content, and the limit, if any, is one that can be
set. -/
structure Keeps (machine : Machine) (content : String) : Prop where
  initialTape_eq : machine.initialTape = content
  limit_ne : machine.limit ≠ some 0

theorem Keeps.congr {machine other : Machine} {content : String} (keeps : machine.Keeps content)
    (same : other.setup = machine.setup) : other.Keeps content where
  initialTape_eq := (congrArg (·.2.1) same).trans keeps.initialTape_eq
  limit_ne := by
    have limit : other.limit = machine.limit := congrArg (·.2.2.2) same
    rw [limit]
    exact keeps.limit_ne

end Machine

/-- The content of the tape that a call gives. -/
def Operation.content? : Operation σ → Option String
  | .setTape content => some content
  | .clearTape => some ""
  | _ => none

/-- The content that was given last, or the empty text. -/
def Operation.lastContent (calls : List (Operation σ)) : String :=
  (calls.filterMap content?).getLast?.getD ""

namespace Session

open Machine

variable {fuel : Nat}

theorem keeps_perform {session next : Session σ} {content : String}
    (keeps : session.machine.Keeps content) (call : Operation σ) {answer : Answer}
    (done : session.perform fuel call = some (answer, next)) :
    next.machine.Keeps (call.content?.getD content) := by
  -- Two calls give a tape and one a limit; the others leave alone what a reset keeps of them.
  cases call with
  | run =>
    obtain ⟨⟨halt, machine, memory⟩, ends, same⟩ := Option.map_eq_some_iff.mp done
    cases same
    exact keeps.congr (setup_runWithin ends)
  | step =>
    cases done
    exact keeps.congr (setup_step session.machine)
  | setTape content =>
    cases done
    exact ⟨rfl, keeps.limit_ne⟩
  | clearTape =>
    cases done
    exact ⟨rfl, keeps.limit_ne⟩
  | setLimit limit =>
    cases done
    change (session.machine.setLimit limit).Keeps content
    simp only [Machine.setLimit]
    split
    · exact keeps
    next positive => exact ⟨keeps.initialTape_eq, by simpa using positive⟩
  | addRule rule => cases done; exact ⟨keeps.initialTape_eq, keeps.limit_ne⟩
  | read dialect source => cases done; exact ⟨keeps.initialTape_eq, keeps.limit_ne⟩
  | setInitialState state => cases done; exact ⟨keeps.initialTape_eq, keeps.limit_ne⟩
  | listen listener => cases done; exact keeps
  | stop => cases done; exact keeps.congr rfl
  | reset => cases done; exact keeps.congr rfl

/-! ### One call after another -/

@[simp] theorem reach_nil (session : Session σ) : session.reach fuel [] = some session := rfl

theorem reach_cons (session : Session σ) (call : Operation σ) (calls : List (Operation σ)) :
    session.reach fuel (call :: calls) =
      (session.perform fuel call).bind fun (_, next) => next.reach fuel calls := by
  simp only [reach, follow, Option.map_bind]
  congr 1
  funext ⟨answer, next⟩
  exact Option.map_map ..

theorem reach_append (session : Session σ) (earlier later : List (Operation σ)) :
    session.reach fuel (earlier ++ later) =
      (session.reach fuel earlier).bind (·.reach fuel later) := by
  induction earlier generalizing session with
  | nil => rfl
  | cons call earlier ih =>
    simp only [List.cons_append, reach_cons, ih, Option.bind_assoc]

theorem keeps_reach {session final : Session σ} {content : String}
    (keeps : session.machine.Keeps content) (calls : List (Operation σ))
    (reached : session.reach fuel calls = some final) :
    final.machine.Keeps ((calls.filterMap Operation.content?).getLast?.getD content) := by
  induction calls generalizing session content with
  | nil =>
    cases reached
    exact keeps
  | cons call calls ih =>
    rw [reach_cons] at reached
    obtain ⟨⟨answer, next⟩, performed, rest⟩ := Option.bind_eq_some_iff.mp reached
    have kept := ih (keeps_perform keeps call performed) rest
    -- A call that gives no content leaves the one that was given before.
    cases given : call.content? with
    | none =>
      rw [given] at kept
      rwa [List.filterMap_cons_none given]
    | some later =>
      rw [given] at kept
      rwa [List.filterMap_cons_some given, List.getLast?_cons, Option.getD_some]

/-! ### A machine made anew -/

theorem reach_addRule (session : Session σ) (rules : List Rule) :
    session.reach fuel (rules.map .addRule) = some (session.update (·.addRules rules)) := by
  induction rules generalizing session with
  | nil => rfl
  | cons rule rules ih =>
    rw [List.map_cons, reach_cons]
    exact ih (session.update (·.addRule rule))

theorem reach_listen (session : Session σ) (listeners : List (Listener σ)) :
    session.reach fuel (listeners.map .listen) =
      some { session with listeners := session.listeners ++ listeners } := by
  induction listeners generalizing session with
  | nil => simp
  | cons listener listeners ih =>
    rw [List.map_cons, reach_cons]
    simp only [perform, Option.bind_some, ih, List.append_assoc, List.singleton_append]

theorem reach_setLimit (session : Session σ) {limit : Option Nat} (proper : limit ≠ some 0)
    (unset : session.machine.limit = none) :
    session.reach fuel (limit.toList.map .setLimit) =
      some (session.update ({ · with limit := limit })) := by
  cases limit with
  | none =>
    have same : { session.machine with limit := none } = session.machine := by rw [← unset]
    rw [update, same]
    rfl
  | some limit =>
    have positive : limit ≠ 0 := fun zero => proper (congrArg some zero)
    simp only [Option.toList_some, List.map_cons, List.map_nil, reach_cons, perform,
      Option.bind_some, reach_nil, update, Machine.setLimit, if_neg positive]

/-- The calls that give a new machine some rules, and what else the machine of a session has. -/
def remaking (session : Session σ) (rules : List Rule) (content : String) : List (Operation σ) :=
  rules.map .addRule ++ [.setInitialState session.machine.initialState, .setTape content] ++
    session.machine.limit.toList.map .setLimit ++ session.listeners.map .listen

/-- A new machine that is given what the machine of a session keeps is that machine after a reset. -/
theorem reach_remaking {session : Session σ} {content : String}
    (keeps : session.machine.Keeps content) {rules : List Rule}
    (all : rules.Perm session.machine.table.rules) :
    (ofMachine .empty session.memory).reach fuel (session.remaking rules content) =
      some (session.update Machine.reset) := by
  have table : Table.empty.insertAll rules = session.machine.table := Table.ofRules_of_perm all
  -- Each call gives one thing that a reset keeps; the rest of a new machine is as after a reset.
  simp only [remaking, reach_append, reach_addRule, Option.bind_some, reach_cons, perform,
    reach_nil]
  rw [reach_setLimit _ keeps.limit_ne rfl, Option.bind_some, reach_listen]
  simp only [update, ofMachine, Machine.addRules, Machine.empty, ofTable, Machine.setTape,
    Machine.setInitialState, Machine.reset, List.nil_append, table, keeps.initialTape_eq]

/-! ### Running again -/

section Again

variable (session : Session σ)

/-- The observation of a run of `k` steps. -/
noncomputable def observedRun (k : Nat) : Observation where
  answer := .halted (session.machine.cause session.listeners session.memory k)
  snapshot := (result session.listeners session.machine session.memory k).2.1.snapshot
  heard := session.machine.hearings session.listeners.length
    (session.machine.cause session.listeners session.memory k) k

/-- The session after a run of `k` steps. -/
noncomputable def afterRun (k : Nat) : Session σ where
  machine := (result session.listeners session.machine session.memory k).2.1
  listeners := session.listeners
  memory := (result session.listeners session.machine session.memory k).2.2

theorem transcript_run {k : Nat}
    (length : session.machine.runLength session.listeners session.memory = k)
    (enough : k < fuel) (later : List (Operation σ)) :
    session.transcript fuel (.run :: later) =
      session.observedRun k :: (session.afterRun k).transcript fuel later := by
  have performed : session.perform fuel .run =
      some ((session.observedRun k).answer, session.afterRun k) := by
    rw [perform, runWithin_of_eq_runLength _ _ _ length, if_pos enough]
    rfl
  have heard : session.heard fuel .run = (session.observedRun k).heard := by
    rw [Session.heard, runWithin_recordingFrom length enough]
    rfl
  simp only [transcript, performed, heard]
  rfl

theorem transcript_reset (later : List (Operation σ)) :
    session.transcript fuel (.reset :: later) =
      ⟨.done, session.machine.reset.snapshot, []⟩ ::
        (session.update Machine.reset).transcript fuel later := rfl

theorem exists_of_transcript_run {seen : Observation}
    (ran : session.transcript fuel [.run] = [seen]) :
    ∃ k : ℕ, session.machine.runLength session.listeners session.memory = k ∧ k < fuel ∧
      seen = session.observedRun k := by
  cases ends : session.machine.runWithin fuel session.listeners session.memory with
  | none => simp [transcript, perform, ends] at ran
  | some outcome =>
    obtain ⟨k, length, enough, _⟩ := eq_result_of_runWithin ends
    rw [transcript_run session length enough] at ran
    exact ⟨k, length, enough, (List.cons.inj ran).1.symm⟩

/-- Listeners with whatever memory see a run of the same machine go the same way. -/
theorem observedRun_congr (afresh : Listener.StartAfresh session.listeners) (other : σ) (k : Nat) :
    { session with memory := other }.observedRun k = session.observedRun k := by
  simp only [observedRun, cause_congr session.machine afresh other session.memory,
    result_congr session.machine afresh other session.memory]

/-- A run of a machine that was reset is repeated after another reset. -/
theorem transcript_run_reset_run (afresh : Listener.StartAfresh session.listeners)
    (restored : session.machine.reset = session.machine) {seen : Observation}
    (ran : session.transcript fuel [.run] = [seen]) :
    session.transcript fuel [.run, .reset, .run] =
      [seen, ⟨.done, session.machine.snapshot, []⟩, seen] := by
  obtain ⟨k, length, enough, rfl⟩ := exists_of_transcript_run session ran
  have ends := runWithin_of_eq_runLength session.listeners session.machine session.memory length
    fuel
  rw [if_pos enough] at ends
  -- The run leaves alone what a reset returns to.
  have back : (session.afterRun k).machine.reset = session.machine :=
    (reset_congr (setup_runWithin ends)).trans restored
  have again : (session.afterRun k).update Machine.reset =
      { session with memory := (session.afterRun k).memory } := by
    rw [update, back]
    rfl
  have same : session.machine.runLength session.listeners (session.afterRun k).memory = k :=
    (runLength_congr session.machine afresh _ session.memory).trans length
  rw [transcript_run session length enough, transcript_reset, back, again,
    transcript_run { session with memory := (session.afterRun k).memory } same enough,
    observedRun_congr session afresh (session.afterRun k).memory]
  rfl

end Again

/-- A reset makes a machine as good as new. After any calls, the session with its machine reset is
the session in which a new machine is given the present rules, in any order, the present initial
state, the content that was given last, the present limit and the same listeners with the same
memory: whatever is called from then on, the same can be observed of both. And if the listeners heed
nothing from before the present run, then a run that ends, a reset and another run are observed to
be twice the same run. -/
theorem reset_remakes_and_replays (table : Table) (memory : σ) (calls : List (Operation σ))
    {session : Session σ}
    (reached : (ofMachine (.ofTable table) memory).reach fuel calls = some session) :
    let fresh := session.update Machine.reset
    (∀ rules : List Rule, rules.Perm session.machine.table.rules →
      ∃ built, (ofMachine .empty session.memory).reach fuel
          (session.remaking rules (Operation.lastContent calls)) = some built ∧
        built = fresh ∧
        ∀ (fuel : Nat) (later : List (Operation σ)),
          built.transcript fuel later = fresh.transcript fuel later) ∧
    (Listener.StartAfresh session.listeners →
      ∀ (fuel : Nat) (seen : Observation), fresh.transcript fuel [.run] = [seen] →
        fresh.transcript fuel [.run, .reset, .run] =
          [seen, ⟨.done, fresh.machine.snapshot, []⟩, seen]) := by
  intro fresh
  have new : (Machine.ofTable table).Keeps "" := ⟨rfl, by simp [ofTable]⟩
  have keeps : session.machine.Keeps (Operation.lastContent calls) := keeps_reach new calls reached
  constructor
  · intro rules all
    exact ⟨fresh, reach_remaking keeps all, rfl, fun _ _ => rfl⟩
  · intro afresh fuel seen ran
    exact transcript_run_reset_run fresh afresh rfl ran

/-- Asks for a stop at the second step of every run. -/
def countsToTwo : Listener Nat where
  respond
    | .started, _, _ => (0, false)
    | .stepped, _, count => (count + 1, count + 1 == 2)
    | .stopped _, _, count => (count, false)

/-- Writes to the right for ever. -/
def fillsTape : Table := .ofRules [⟨⟨"0", ' '⟩, ⟨"0", 'x', .right⟩, 1⟩]

/-- A run that is stopped, another step, and a request for a stop that no run has yet seen. -/
def stoppedHalfway : List (Operation Nat) :=
  [.setLimit 5, .listen countsToTwo, .run, .step, .stop]

/-- The run is stopped at its second step, and so is the one after the reset. -/
theorem reset_remakes_and_replays_stoppedHalfway :
    ∃ session, (ofMachine (.ofTable fillsTape) 0).reach 9 stoppedHalfway = some session ∧
      session.machine.steps = 3 ∧
      (∃ built, (ofMachine .empty session.memory).reach 9
          (session.remaking session.machine.table.rules "") = some built ∧
        built = session.update Machine.reset) ∧
      ∃ seen between, seen.snapshot.steps = 2 ∧
        (session.update Machine.reset).transcript 9 [.run, .reset, .run] = [seen, between, seen] := by
  have happened : ((ofMachine (.ofTable fillsTape) 0).reach 9 stoppedHalfway).map (fun session =>
      (session.listeners, session.machine.steps,
        ((session.update Machine.reset).transcript 9 [.run]).map (·.snapshot.steps))) =
      some ([countsToTwo], 3, [2]) := rfl
  obtain ⟨session, reached, same⟩ := Option.map_eq_some_iff.mp happened
  obtain ⟨listeners, steps, halfway⟩ : session.listeners = [countsToTwo] ∧
      session.machine.steps = 3 ∧
      ((session.update Machine.reset).transcript 9 [.run]).map (·.snapshot.steps) = [2] := by
    simpa only [Prod.mk.injEq] using same
  obtain ⟨seen, ran, counted⟩ := List.map_eq_singleton_iff.mp halfway
  -- Whatever the count was, it is set to zero when a run starts.
  have afresh : Listener.StartAfresh session.listeners := by
    rw [listeners]
    exact fun _ _ _ _ => rfl
  obtain ⟨remakes, replays⟩ := reset_remakes_and_replays fillsTape 0 stoppedHalfway reached
  obtain ⟨built, made, same, _⟩ := remakes session.machine.table.rules (.refl _)
  exact ⟨session, reached, steps, ⟨built, made, same⟩, seen, _, counted,
    replays afresh 9 seen ran⟩

end Session
end TuringScript
