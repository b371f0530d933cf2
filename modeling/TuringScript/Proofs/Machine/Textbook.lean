import TuringScript.Proofs.Machine.Stepping
import TuringScript.Proofs.Table.LastRule
import TuringScript.Proofs.Tape.Endless

/-!
# Textbook machines

A Turing machine as textbooks have it: a state, a tape that is endless on both sides, and a position
on it that is never shifted. The last of the rules with a key is the one that applies. A machine
with these rules takes the same steps, however its stored cells grow.
-/
namespace TuringScript

namespace Textbook

structure Config where
  state : String
  cells : Int → Char
  position : Int

namespace Config

def start (state content : String) : Config := ⟨state, Tape.laidOut content.toList, 0⟩

/-- The rule that applies, if there is one. -/
def rule? (rules : List Rule) (config : Config) : Option Rule :=
  Table.lastRule? rules ⟨config.state, config.cells config.position⟩

/-- Writes, then changes state, then moves. -/
def apply (config : Config) (transition : Transition) : Config where
  state := transition.nextState
  cells := Function.update config.cells config.position transition.write
  position := config.position + transition.direction.offset

def next (rules : List Rule) (config : Config) : Config :=
  match config.rule? rules with
  | some rule => config.apply rule.transition
  | none => config

def after (rules : List Rule) (count : Nat) (config : Config) : Config :=
  (next rules)^[count] config

/-- The leftmost position of the head in the first `count` steps. -/
def leftmost (rules : List Rule) (config : Config) : Nat → Int
  | 0 => config.position
  | count + 1 => min (leftmost rules config count) (config.after rules (count + 1)).position

theorem after_succ (rules : List Rule) (count : Nat) (config : Config) :
    config.after rules (count + 1) = (config.after rules count).next rules :=
  Function.iterate_succ_apply' _ _ _

theorem next_of_rule?_some {rules : List Rule} {config : Config} {rule : Rule}
    (applies : config.rule? rules = some rule) :
    config.next rules = config.apply rule.transition := by
  simp only [next, applies]

theorem next_of_rule?_none {rules : List Rule} {config : Config}
    (stuck : config.rule? rules = none) : config.next rules = config := by
  simp only [next, stuck]

end Config
end Textbook

open Textbook

namespace Machine

/-- The machine is in the configuration, and its first stored cell is at `first`. -/
structure Realizes (machine : Machine) (first : Int) (config : Config) : Prop where
  state_eq : machine.state = config.state
  shows : ∃ last, machine.tape.Shows first last config.cells config.position

/-- A machine that has been given rules, a state, a tape and a limit, zero for none. -/
def prepared (rules : List Rule) (state content : String) (limit : Nat) : Machine :=
  (((empty.addRules rules).setInitialState state).setTape content).setLimit limit

theorem prepared_table (rules : List Rule) (state content : String) (limit : Nat) :
    (prepared rules state content limit).table = Table.ofRules rules := by
  rw [prepared, setLimit_eq]
  rfl

theorem prepared_realizes_start (rules : List Rule) (state content : String) (limit : Nat) :
    (prepared rules state content limit).Realizes 0 (Config.start state content) := by
  have shows := Tape.Shows.ofString content
  rw [prepared, setLimit_eq]
  exact ⟨rfl, _, shows⟩

namespace Realizes

variable {machine : Machine} {first : Int} {config : Config} {rules : List Rule}

theorem key_eq (realizes : machine.Realizes first config) :
    machine.key = ⟨config.state, config.cells config.position⟩ := by
  obtain ⟨last, shows⟩ := realizes.shows
  rw [key, realizes.state_eq, shows.cell_position]

/-- The table and the textbook agree on what to do. -/
theorem lookup?_key (realizes : machine.Realizes first config)
    (loaded : machine.table = Table.ofRules rules) :
    machine.table.lookup? machine.key = (config.rule? rules).map Rule.transition := by
  rw [loaded, Table.lookup?_ofRules, realizes.key_eq]
  rfl

theorem line?_key (realizes : machine.Realizes first config)
    (loaded : machine.table = Table.ofRules rules) :
    machine.table.line? machine.key = (config.rule? rules).map Rule.line := by
  rw [loaded, Table.line?_ofRules, realizes.key_eq]
  rfl

theorem apply (realizes : machine.Realizes first config) (transition : Transition) :
    (machine.apply transition).Realizes
      (min first (config.position + transition.direction.offset)) (config.apply transition) := by
  obtain ⟨last, shows⟩ := realizes.shows
  exact ⟨rfl, _, (shows.write transition.write).move transition.direction⟩

/-- One step of the machine is one step of the textbook, which is to stand still without a rule. -/
theorem step (realizes : machine.Realizes first config)
    (loaded : machine.table = Table.ofRules rules) :
    machine.step.2.Realizes (min first (config.next rules).position) (config.next rules) := by
  have found := realizes.lookup?_key loaded
  cases applies : config.rule? rules with
  | none =>
    rw [applies] at found
    obtain ⟨last, shows⟩ := realizes.shows
    rw [step_of_lookup?_none found, Config.next_of_rule?_none applies, min_eq_left shows.first_le]
    exact ⟨realizes.state_eq, last, shows⟩
  | some rule =>
    rw [applies] at found
    -- The key is remembered before the rule is applied.
    have looked : Realizes { machine with lastKey := some machine.key } first config :=
      ⟨realizes.state_eq, realizes.shows⟩
    rw [step_of_lookup?_some found, Config.next_of_rule?_some applies]
    exact looked.apply rule.transition

/-- The simulation over a run of any length, by induction on the number of steps. -/
theorem after (realizes : machine.Realizes config.position config)
    (loaded : machine.table = Table.ofRules rules) (count : Nat) :
    (machine.after count).Realizes (config.leftmost rules count) (config.after rules count) := by
  induction count with
  -- Before the first step the head is at the first stored cell.
  | zero => exact realizes
  | succ count ih =>
    rw [Machine.after_succ, Config.leftmost, Config.after_succ]
    exact ih.step (by rw [after_table, loaded])

end Realizes

/-- The engine refines the textbook machine. After any number of steps it is in the textbook's
configuration, the cells being counted from the leftmost position so far; it takes a step exactly if
a rule applies, the same one as the textbook; and a step that it cannot take changes nothing but the
remembered key. -/
theorem step_after_refines_textbook (rules : List Rule) (state content : String)
    (limit count : Nat) :
    let machine := (prepared rules state content limit).after count
    let start := Config.start state content
    let config := start.after rules count
    machine.Realizes (start.leftmost rules count) config ∧
    (machine.step.1 = true ↔ (config.rule? rules).isSome) ∧
    (∀ rule, config.rule? rules = some rule →
      machine.step.2.Realizes (start.leftmost rules (count + 1)) (config.apply rule.transition) ∧
      machine.step.2.steps = machine.steps + 1 ∧
      machine.step.2.lastMove = some rule.transition.direction ∧
      machine.step.2.debugLine = some rule.line) ∧
    (config.rule? rules = none →
      machine.step.2 = { machine with lastKey := some machine.key }) := by
  intro machine start config
  have loaded : machine.table = Table.ofRules rules := by
    rw [after_table, prepared_table]
  have realizes : machine.Realizes (start.leftmost rules count) config :=
    (prepared_realizes_start rules state content limit).after (prepared_table ..) count
  have found := realizes.lookup?_key loaded
  refine ⟨realizes, ?_, ?_, ?_⟩
  · rw [step_fst, found, Option.isSome_map]
  · intro rule applies
    have next := Config.next_of_rule?_some applies
    have stepped := realizes.step loaded
    have line := realizes.line?_key loaded
    rw [applies, Option.map_some] at found line
    rw [Config.leftmost, Config.after_succ]
    change machine.step.2.Realizes (min _ (config.next rules).position) _ ∧ _
    rw [next] at stepped ⊢
    refine ⟨stepped, ?_, ?_, ?_⟩
    · rw [step_of_lookup?_some found]
      rfl
    · rw [step_of_lookup?_some found]
      rfl
    · rw [step_of_lookup?_some found]
      exact line
  · intro stuck
    rw [stuck, Option.map_none] at found
    rw [step_of_lookup?_none found]

end Machine
end TuringScript
