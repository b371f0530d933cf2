import TuringScript.Machine.Session
import TuringScript.Proofs.Machine.Race
import TuringScript.Proofs.Table.LastRule

/-!
# The last look-up

A machine remembers the key of its last look-up and not what it found. The line it tells is taken
from the table as it is when the question is asked, so rules that came in after the look-up can
change the answer. To say when they do, the calls on a session are followed with a history beside
them: the look-ups that are made, the rules that are inserted, and the resets.
-/
namespace TuringScript

open Table (lastRule? entryOf)

/-- A key that a machine looked up, and what the table then held under it. -/
structure Lookup where
  key : Key
  found : Option Entry
  deriving DecidableEq

namespace Lookup

/-- The line of the rule that matched. -/
def line? (lookup : Lookup) : Option Nat := lookup.found.map Entry.line

/-- The line under the key of a look-up once more rules have been inserted. -/
def lineAmong (lookup : Lookup) (rules : List Rule) : Option Nat :=
  ((lastRule? rules lookup.key).map Rule.line).or lookup.line?

/-- Rules that come after a look-up leave its line alone if the last of them for its key has it. -/
theorem lineAmong_eq_line?_iff (lookup : Lookup) (rules : List Rule) :
    lookup.lineAmong rules = lookup.line? ↔
      ∀ rule ∈ lastRule? rules lookup.key, lookup.line? = some rule.line := by
  unfold lineAmong
  cases lastRule? rules lookup.key with
  | none => simp
  | some rule => simp [eq_comm]

end Lookup

/-- What a machine does, or has done to it, that bears on its last look-up or its table. -/
inductive Action where
  | looked (lookup : Lookup)
  | inserted (rules : List Rule)
  | reset
  deriving DecidableEq

/-- The last look-up since the construction or the last reset, and the rules inserted after it. -/
structure History where
  last : Option Lookup
  since : List Rule

namespace History

def blank : History := ⟨none, []⟩

def next (history : History) : Action → History
  | .looked lookup => ⟨some lookup, []⟩
  | .inserted rules => { history with since := history.since ++ rules }
  | .reset => blank

def extend (history : History) (actions : List Action) : History := actions.foldl next history

def ofActions (actions : List Action) : History := blank.extend actions

theorem extend_append (history : History) (earlier later : List Action) :
    history.extend (earlier ++ later) = (history.extend earlier).extend later :=
  List.foldl_append

/-- The line of the rule behind the last look-up, if it matched. -/
def line? (history : History) : Option Nat := history.last.bind Lookup.line?

/-- The line that the table holds under the key of the last look-up. -/
def presentLine? (history : History) : Option Nat :=
  history.last.bind (·.lineAmong history.since)

theorem presentLine?_eq_line?_iff (history : History) :
    history.presentLine? = history.line? ↔
      ∀ lookup ∈ history.last, ∀ rule ∈ lastRule? history.since lookup.key,
        lookup.line? = some rule.line := by
  unfold presentLine? line?
  cases history.last with
  | none => simp
  | some lookup => simpa using lookup.lineAmong_eq_line?_iff history.since

end History

variable {σ : Type}

namespace Machine

/-- The look-up with which the next step begins. -/
def lookup (machine : Machine) : Lookup := ⟨machine.key, machine.table.find? machine.key⟩

/-- The look-ups that the rounds of a run make. -/
def roundLookups (listeners : List (Listener σ)) : Nat → Machine → σ → List Lookup
  | 0, _, _ => []
  | fuel + 1, machine, memory =>
    if machine.stopRequested then []
    else if machine.overLimit then []
    else machine.lookup :: match machine.step with
      | (false, _) => []
      | (true, machine) =>
        let (machine, memory) := machine.notify listeners .stepped memory
        roundLookups listeners fuel machine memory

def runLookups (fuel : Nat) (listeners : List (Listener σ)) (machine : Machine) (memory : σ) :
    List Lookup :=
  let (machine, memory) := machine.start listeners memory
  roundLookups listeners fuel machine memory

section Rounds

variable {listeners : List (Listener σ)} {fuel : Nat} {machine final : Machine}
  {memory remembered : σ} {halt : Halt}

/-- A round ends the run without a look-up, or with one in vain, or it goes on after a step. -/
theorem rounds_succ_cases
    (ends : rounds listeners (fuel + 1) machine memory = some (halt, final, remembered)) :
    (halt ≠ .noRule ∧ final = machine ∧ roundLookups listeners (fuel + 1) machine memory = []) ∨
    (halt = .noRule ∧ machine.step.1 = false ∧ final = machine.step.2 ∧
      roundLookups listeners (fuel + 1) machine memory = [machine.lookup]) ∨
    ∃ next heard, machine.step.1 = true ∧
      machine.step.2.notify listeners .stepped memory = (next, heard) ∧
      rounds listeners fuel next heard = some (halt, final, remembered) ∧
      roundLookups listeners (fuel + 1) machine memory =
        machine.lookup :: roundLookups listeners fuel next heard := by
  simp only [rounds, roundLookups] at ends ⊢
  split at ends
  next requested =>
    cases ends
    exact .inl ⟨by decide, rfl, if_pos requested⟩
  next unasked =>
    rw [if_neg unasked]
    split at ends
    next exceeded =>
      cases ends
      exact .inl ⟨by decide, rfl, if_pos exceeded⟩
    next within =>
      rw [if_neg within]
      rcases stepped : machine.step with ⟨_ | _, next⟩
      · rw [stepped] at ends
        cases ends
        exact .inr (.inl ⟨rfl, rfl, rfl, rfl⟩)
      · rw [stepped] at ends
        exact .inr (.inr ⟨_, _, rfl, rfl, ends, rfl⟩)

end Rounds

end Machine

namespace Session

/-- The actions that a call comes to. -/
def actions (fuel : Nat) (session : Session σ) : Operation σ → List Action
  | .addRule rule => [.inserted [rule]]
  | .read dialect source => [.inserted (dialect.read source).rules]
  | .step => [.looked session.machine.lookup]
  | .run =>
    (session.machine.runLookups fuel session.listeners session.memory).map .looked
  | .reset => [.reset]
  | .setTape _ | .clearTape | .setInitialState _ | .setLimit _ | .listen _ | .stop => []

/-- The session after some calls and the actions they came to; nothing if a run takes too long. -/
def follow (fuel : Nat) (session : Session σ) :
    List (Operation σ) → Option (Session σ × List Action)
  | [] => some (session, [])
  | call :: calls =>
    (session.perform fuel call).bind fun (_, next) =>
      (follow fuel next calls).map fun (final, later) =>
        (final, session.actions fuel call ++ later)

end Session

/-! ### What a machine retains of its history -/

/-- The machine has the key of the last look-up, and under it what was found, unless a rule came in
for that key. -/
structure Machine.Retains (machine : Machine) (history : History) : Prop where
  lastKey_eq : machine.lastKey = history.last.map Lookup.key
  find?_eq : ∀ lookup ∈ history.last, machine.table.find? lookup.key =
    ((lastRule? history.since lookup.key).map entryOf).or lookup.found

namespace Machine

variable {machine other : Machine} {history : History}

theorem Retains.debugLine_eq (retains : machine.Retains history) :
    machine.debugLine = history.presentLine? := by
  unfold debugLine History.presentLine?
  rw [retains.lastKey_eq]
  cases last : history.last with
  | none => rfl
  | some lookup =>
    have held := retains.find?_eq lookup last
    simp only [Option.map_some, Option.bind_some, ← Table.map_line_find?, held, Option.map_or,
      Option.map_map]
    rfl

theorem retains_ofTable (table : Table) : (ofTable table).Retains .blank where
  lastKey_eq := rfl
  find?_eq := by simp [History.blank]

/-- Only the last key and the table count. -/
theorem Retains.congr (retains : machine.Retains history) (key : other.lastKey = machine.lastKey)
    (table : other.table = machine.table) : other.Retains history where
  lastKey_eq := key.trans retains.lastKey_eq
  find?_eq := by
    rw [table]
    exact retains.find?_eq

theorem Retains.notify (retains : machine.Retains history) (listeners : List (Listener σ))
    (notice : Notice) (memory : σ) :
    (machine.notify listeners notice memory).1.Retains history := by
  have same := seen_notify_fst listeners notice machine memory
  exact retains.congr (congrArg (·.lastKey) same) (congrArg (·.table) same)

theorem Retains.addRules (retains : machine.Retains history) (rules : List Rule) :
    (machine.addRules rules).Retains (history.next (.inserted rules)) where
  lastKey_eq := retains.lastKey_eq
  find?_eq := by
    intro lookup last
    have before := retains.find?_eq lookup last
    change (machine.table.insertAll rules).find? lookup.key = _
    simp only [History.next, Table.find?_insertAll, Table.lastRule?_append, before, Option.map_or,
      Option.or_assoc]

/-- Whatever went before, a step begins with a look-up of its own. -/
theorem retains_step (machine : Machine) (history : History) :
    machine.step.2.Retains (history.next (.looked machine.lookup)) where
  lastKey_eq := by
    unfold step
    split <;> rfl
  find?_eq := by
    intro lookup last
    obtain rfl : machine.lookup = lookup := Option.some.inj last
    rw [step_table]
    rfl

theorem retains_reset (machine : Machine) (history : History) :
    machine.reset.Retains (history.next .reset) where
  lastKey_eq := rfl
  find?_eq := by simp [History.next, History.blank]

/-- Every look-up of a run restores what the machine retains, whatever it was before. -/
theorem Retains.rounds {listeners : List (Listener σ)} {fuel : Nat} {memory remembered : σ}
    {halt : Halt} {final : Machine} (retains : machine.Retains history)
    (ends : rounds listeners fuel machine memory = some (halt, final, remembered)) :
    final.Retains (history.extend
      ((roundLookups listeners fuel machine memory).map .looked)) := by
  induction fuel generalizing machine memory history with
  | zero => simp [Machine.rounds] at ends
  | succ fuel ih =>
    have looked := retains_step machine history
    obtain ⟨_, rfl, none⟩ | ⟨_, _, rfl, one⟩ | ⟨next, heard, _, told, later, more⟩ :=
      rounds_succ_cases ends
    · rw [none]
      exact retains
    · rw [one]
      exact looked
    · have shown := looked.notify listeners .stepped memory
      rw [told] at shown
      rw [more]
      exact ih shown later

theorem Retains.runWithin {listeners : List (Listener σ)} {fuel : Nat} {memory remembered : σ}
    {halt : Halt} {final : Machine} (retains : machine.Retains history)
    (ends : machine.runWithin fuel listeners memory = some (halt, final, remembered)) :
    final.Retains (history.extend ((machine.runLookups fuel listeners memory).map .looked)) := by
  unfold Machine.runWithin at ends
  obtain ⟨⟨cause, last, heard⟩, looped, same⟩ := Option.map_eq_some_iff.mp ends
  -- Neither the change of status nor the notifications touch the last key or the table.
  have entered : Retains { machine with stopRequested := false, status := .running } history :=
    retains.congr rfl rfl
  have left := (entered.notify listeners .started memory).rounds looped
  have stopped : Retains { last with status := .stopped } _ := left.congr rfl rfl
  obtain rfl : (finish listeners cause last heard).1 = final := congrArg (·.2.1) same
  exact stopped.notify listeners (.stopped cause) heard

end Machine

/-! ### Following a session -/

namespace Session

open Machine

variable {fuel : Nat} {session next final : Session σ} {history : History}

theorem retains_perform (retains : session.machine.Retains history) (call : Operation σ)
    {answer : Answer} (done : session.perform fuel call = some (answer, next)) :
    next.machine.Retains (history.extend (session.actions fuel call)) := by
  cases call with
  | run =>
    obtain ⟨⟨halt, machine, memory⟩, ends, same⟩ := Option.map_eq_some_iff.mp done
    cases same
    exact retains.runWithin ends
  | addRule rule =>
    cases done
    exact retains.addRules [rule]
  | read dialect source =>
    cases done
    exact retains.addRules (dialect.read source).rules
  | step =>
    cases done
    exact retains_step session.machine history
  | reset =>
    cases done
    exact retains_reset session.machine history
  | setLimit limit =>
    cases done
    simp only [update, Machine.setLimit_eq]
    exact retains.congr rfl rfl
  | setTape content => cases done; exact retains.congr rfl rfl
  | clearTape => cases done; exact retains.congr rfl rfl
  | setInitialState state => cases done; exact retains.congr rfl rfl
  | listen listener => cases done; exact retains.congr rfl rfl
  | stop => cases done; exact retains.congr rfl rfl

theorem retains_follow (retains : session.machine.Retains history) (calls : List (Operation σ))
    {actions : List Action} (done : session.follow fuel calls = some (final, actions)) :
    final.machine.Retains (history.extend actions) := by
  induction calls generalizing session history actions with
  | nil =>
    cases done
    exact retains
  | cons call calls ih =>
    obtain ⟨⟨answer, next⟩, performed, followed⟩ := Option.bind_eq_some_iff.mp done
    obtain ⟨⟨last, later⟩, rest, same⟩ := Option.map_eq_some_iff.mp followed
    cases same
    rw [History.extend_append]
    exact ih (retains_perform retains call performed) rest

/-- After any calls, the line that a machine tells is the one its table now holds under the key of
the last look-up since its construction or its last reset. This is the line of the rule that the
look-up matched, or nothing if it matched none, if and only if the last rule inserted since then for
the same key, should there be one, has that very line. -/
theorem debugLine_follow (table : Table) (memory : σ) (calls : List (Operation σ))
    {actions : List Action}
    (done : (ofMachine (.ofTable table) memory).follow fuel calls = some (final, actions)) :
    final.machine.debugLine = (History.ofActions actions).presentLine? ∧
      (final.machine.debugLine = (History.ofActions actions).line? ↔
        ∀ lookup ∈ (History.ofActions actions).last,
          ∀ rule ∈ lastRule? (History.ofActions actions).since lookup.key,
            lookup.line? = some rule.line) := by
  have retains : final.machine.Retains (History.ofActions actions) :=
    retains_follow (retains_ofTable table) calls done
  rw [retains.debugLine_eq]
  exact ⟨rfl, History.presentLine?_eq_line?_iff _⟩

/-- A step and then a rule: for the key just looked up, or for the one to be looked up next. -/
def lateRule (state : String) : List (Operation Unit) :=
  [.step, .addRule ⟨⟨state, ' '⟩, ⟨"1", ' ', .right⟩, 7⟩]

def oneRule : Table := .ofRules [⟨⟨"0", ' '⟩, ⟨"1", ' ', .right⟩, 1⟩]

/-- A rule for another key changes nothing. -/
theorem debugLine_follow_otherKey :
    ∃ final actions, (ofMachine (.ofTable oneRule) ()).follow 0 (lateRule "1") =
        some (final, actions) ∧
      final.machine.debugLine = some 1 ∧ (History.ofActions actions).line? = some 1 := by
  have happened : ((ofMachine (.ofTable oneRule) ()).follow 0 (lateRule "1")).map (·.2) =
      some [.looked ⟨⟨"0", ' '⟩, some ⟨⟨"1", ' ', .right⟩, 1⟩⟩,
        .inserted [⟨⟨"1", ' '⟩, ⟨"1", ' ', .right⟩, 7⟩]] := by decide +kernel
  obtain ⟨⟨final, actions⟩, done, rfl⟩ := Option.map_eq_some_iff.mp happened
  have told := (debugLine_follow oneRule () (lateRule "1") done).2.mpr (by decide)
  exact ⟨final, _, done, told.trans rfl, rfl⟩

/-- A look-up that found nothing is told to have matched once a rule for its key has come in. -/
theorem not_debugLine_eq_line :
    ¬ ∀ (calls : List (Operation Unit)) (fuel : Nat) (final : Session Unit) (actions : List Action),
      (ofMachine (.ofTable .empty) ()).follow fuel calls = some (final, actions) →
        final.machine.debugLine = (History.ofActions actions).line? := by
  intro law
  have told : ((ofMachine (.ofTable .empty) ()).follow 0 (lateRule "0")).map
      (fun (final, actions) => (final.machine.debugLine, (History.ofActions actions).line?)) =
        some (some 7, none) := by decide +kernel
  obtain ⟨⟨final, actions⟩, done, lines⟩ := Option.map_eq_some_iff.mp told
  obtain ⟨now, before⟩ := Prod.mk.inj lines
  have same := law _ _ final actions done
  rw [now, before] at same
  cases same

end Session
end TuringScript
