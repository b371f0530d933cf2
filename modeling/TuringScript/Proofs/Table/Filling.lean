import Mathlib.Data.Finset.Card
import Mathlib.Data.List.Sort
import Mathlib.Data.String.Basic
import TuringScript.Proofs.Source.Sink
import TuringScript.Proofs.Table.LastRule

/-!
# Filling a table

Rules come into a table one by one or by whole sources, and a source at fault leaves the rules that
come before the fault. Whatever came, the table holds the last rule of every key, and has as many
entries and states as there are keys and states among the rules. To read a source once more changes
nothing.
-/
namespace TuringScript

/-! ### Supplies -/

/-- What hands rules to a sink: a single rule, or a source up to its first fault. -/
inductive Supply where
  | single (rule : Rule)
  | source (dialect : Dialect) (text : String)

namespace Supply

variable {τ : Type} (add : τ → Rule → τ)

/-- The sink after a supply. -/
def into (sink : τ) : Supply → τ
  | single rule => add sink rule
  | source dialect text => ((dialect.read text).into add sink).2

/-- The sink after supplies one after another. -/
def allInto (sink : τ) (supplies : List Supply) : τ := supplies.foldl (into add) sink

/-- A list takes every rule at its end. -/
def collect (rules : List Rule) (rule : Rule) : List Rule := rules ++ [rule]

/-- All rules that are handed over, in order. -/
def handed (supplies : List Supply) : List Rule := allInto collect [] supplies

theorem foldl_collect (rules more : List Rule) : more.foldl collect rules = rules ++ more := by
  change more.foldl (fun taken rule => taken ++ [rule]) rules = rules ++ more
  rw [List.foldl_append_eq_append, ← List.flatMap_def, List.flatMap_singleton']

/-- A sink that took the rules of a list takes those that a supply adds to the list. -/
theorem into_foldl (start : τ) (rules : List Rule) (supply : Supply) :
    into add (rules.foldl add start) supply = (into collect rules supply).foldl add start := by
  cases supply with
  | single rule => rw [into, into, collect, List.foldl_append, List.foldl_cons, List.foldl_nil]
  | source dialect text => simp only [into, Reading.into, foldl_collect, List.foldl_append]

/-- Every sink is handed the same rules. -/
theorem allInto_eq_foldl (sink : τ) (supplies : List Supply) :
    allInto add sink supplies = (handed supplies).foldl add sink := by
  -- Along the supplies, the rules collected so far tell where the other sink is.
  have along (rules : List Rule) : allInto add (rules.foldl add sink) supplies =
      (allInto collect rules supplies).foldl add sink := by
    induction supplies generalizing rules with
    | nil => rfl
    | cons supply supplies ih =>
      simp only [allInto, List.foldl_cons] at ih ⊢
      rw [into_foldl, ih]
  exact along []

end Supply

/-! ### Numbers of keys and states -/

namespace Table

theorem mem_dropRepeats {α : Type} [DecidableEq α] (items : List α) (item : α) :
    item ∈ dropRepeats items ↔ item ∈ items := by
  fun_induction dropRepeats items with
  | case1 first rest ih => simp [ih]
  | case2 first second rest different ih => rw [List.mem_cons, ih, ← List.mem_cons]
  | case3 items short => rfl

/-- Among items in order, an item is less than the next one that is left. -/
theorem pairwise_dropRepeats {α : Type} [LinearOrder α] {items : List α}
    (ordered : items.Pairwise (· ≤ ·)) : (dropRepeats items).Pairwise (· < ·) := by
  fun_induction dropRepeats items with
  | case1 first rest ih => exact ih ordered.of_cons
  | case2 first second rest different ih =>
    rw [List.pairwise_cons] at ordered ⊢
    obtain ⟨least, others⟩ := ordered
    have below : first < second := lt_of_le_of_ne (least second List.mem_cons_self) different
    refine ⟨fun item member => ?_, ih others⟩
    -- Whatever is left of the rest was in it, and nothing there is less than its first item.
    rw [mem_dropRepeats, List.mem_cons] at member
    obtain rfl | later := member
    · exact below
    · exact below.trans_le (List.rel_of_pairwise_cons others later)
  | case3 items short =>
    match items, short with
    | [], _ => exact .nil
    | [item], _ => exact List.pairwise_singleton _ _
    | first :: second :: rest, short => exact absurd rfl (short first second rest)

/-- In whatever order the keys come, their states are counted once each. -/
theorem countStates_eq_card (keys : List Key) :
    countStates keys = (keys.map Key.state).toFinset.card := by
  let states := (keys.map Key.state).mergeSort fun a b => decide (a ≤ b)
  have ordered : states.Pairwise (· ≤ ·) := List.pairwise_mergeSort' (· ≤ ·) _
  -- Neither sorting nor dropping repeats adds or loses a state.
  have same : (dropRepeats states).toFinset = (keys.map Key.state).toFinset := by
    ext state
    rw [List.mem_toFinset, mem_dropRepeats, (List.mergeSort_perm _ _).mem_iff, List.mem_toFinset]
  have distinct : (dropRepeats states).Nodup := (pairwise_dropRepeats ordered).nodup
  rw [← same, List.toFinset_card_of_nodup distinct]
  rfl

theorem nodup_keys (table : Table) : table.keys.Nodup := by
  rw [keys, pairs, Std.ExtTreeMap.map_fst_toList_eq_keys]
  exact Std.ExtTreeMap.nodup_keys

theorem mem_keys_iff (table : Table) (key : Key) :
    key ∈ table.keys ↔ table.lookup? key ≠ none := by
  rw [keys, pairs, Std.ExtTreeMap.map_fst_toList_eq_keys, Std.ExtTreeMap.mem_keys,
    Std.ExtTreeMap.mem_iff_isSome_getElem?, Option.isSome_iff_ne_none, lookup?]

theorem mem_keys_ofRules (rules : List Rule) (key : Key) :
    key ∈ (ofRules rules).keys ↔ key ∈ rules.map Rule.key := by
  rw [mem_keys_iff, lookup?_ofRules, Ne, Option.map_eq_none_iff, lastRule?_eq_none_iff]
  simp only [List.mem_map, not_forall, not_not, exists_prop, ne_eq]

theorem size_ofRules (rules : List Rule) :
    (ofRules rules).size = (rules.map Rule.key).toFinset.card := by
  have same : (ofRules rules).keys.toFinset = (rules.map Rule.key).toFinset := by
    ext key
    simp only [List.mem_toFinset, mem_keys_ofRules]
  rw [← same, List.toFinset_card_of_nodup (nodup_keys _), keys, List.length_map]
  exact Std.ExtTreeMap.length_toList.symm

/-- The states are counted over any listing of the keys. -/
theorem countStates_of_perm {rules : List Rule} {listing : List Key}
    (all : listing.Perm (ofRules rules).keys) :
    countStates listing = (rules.map (·.key.state)).toFinset.card := by
  rw [countStates_eq_card]
  congr 1
  ext state
  simp only [List.mem_toFinset, List.mem_map, all.mem_iff, mem_keys_ofRules,
    exists_exists_and_eq_and]

theorem stateCount_ofRules (rules : List Rule) :
    (ofRules rules).stateCount = (rules.map (·.key.state)).toFinset.card :=
  countStates_of_perm (.refl _)

theorem isEmpty_ofRules (rules : List Rule) : (ofRules rules).isEmpty ↔ rules = [] := by
  have counted := size_ofRules rules
  rw [isEmpty, Std.ExtTreeMap.isEmpty_eq_size_beq_zero, beq_iff_eq]
  change (ofRules rules).size = 0 ↔ _
  rw [counted, Finset.card_eq_zero, List.toFinset_eq_empty_iff, List.map_eq_nil_iff]

/-- A table that was filled in any way, against the list of all rules that were handed to it: the
last rule of a key is found with its line, and keys and states are counted once each. The entries
may be listed in any order, be it for their own sake or to count states. -/
theorem filled_holds_last (supplies : List Supply) :
    let table := Supply.allInto insert empty supplies
    let rules := Supply.handed supplies
    (∀ key, table.lookup? key = (lastRule? rules key).map Rule.transition ∧
      table.line? key = (lastRule? rules key).map Rule.line ∧
      (table.lookup? key = none ↔ ∀ rule ∈ rules, rule.key ≠ key) ∧
      (table.line? key = none ↔ ∀ rule ∈ rules, rule.key ≠ key)) ∧
    table.size = (rules.map Rule.key).toFinset.card ∧
    table.stateCount = (rules.map (·.key.state)).toFinset.card ∧
    (table.isEmpty ↔ rules = []) ∧
    ∀ listing : List (Key × Transition), listing.Perm table.pairs →
      ((listing.map Prod.fst).Nodup ∧
        ∀ key, key ∈ listing.map Prod.fst ↔ key ∈ rules.map Rule.key) ∧
      (∀ key transition, (key, transition) ∈ listing ↔ table.lookup? key = some transition) ∧
      countStates (listing.map Prod.fst) = (rules.map (·.key.state)).toFinset.card := by
  intro table rules
  have filled : table = ofRules rules := Supply.allInto_eq_foldl insert empty supplies
  rw [filled]
  refine ⟨fun key => ?_, size_ofRules rules, stateCount_ofRules rules, isEmpty_ofRules rules,
    fun listing all => ?_⟩
  · rw [lookup?_ofRules, line?_ofRules, Option.map_eq_none_iff, Option.map_eq_none_iff]
    exact ⟨rfl, rfl, lastRule?_eq_none_iff rules key, lastRule?_eq_none_iff rules key⟩
  · -- A listing in another order has the same keys, and each of them as often.
    have listed : (listing.map Prod.fst).Perm (ofRules rules).keys := all.map Prod.fst
    refine ⟨⟨listed.nodup_iff.mpr (nodup_keys _), fun key => ?_⟩, fun key transition => ?_,
      countStates_of_perm listed⟩
    · rw [listed.mem_iff, mem_keys_ofRules]
    · rw [all.mem_iff, mem_pairs]

/-- The last line of the source has no end. The rule added before is replaced, and states are
counted from the end of the listing. -/
theorem filled_holds_last_halfway :
    let supplies : List Supply := [.single ⟨⟨"A", '0'⟩, ⟨"B", '1', .right⟩, 9⟩,
      .source .standard "(A,[01],C,1,<)\n(B,0,A,1,>)\n(B,1"]
    let table := Supply.allInto insert empty supplies
    (Supply.handed supplies).length = 4 ∧ table.size = 3 ∧
    table.lookup? ⟨"A", '0'⟩ = some ⟨"C", '1', .left⟩ ∧ table.line? ⟨"A", '0'⟩ = some 1 ∧
    table.pairs.reverse.Perm table.pairs ∧
    countStates (table.pairs.reverse.map Prod.fst) = 2 := by
  intro supplies table
  have rules : Supply.handed supplies =
      [⟨⟨"A", '0'⟩, ⟨"B", '1', .right⟩, 9⟩, ⟨⟨"A", '0'⟩, ⟨"C", '1', .left⟩, 1⟩,
        ⟨⟨"A", '1'⟩, ⟨"C", '1', .left⟩, 1⟩, ⟨⟨"B", '0'⟩, ⟨"A", '1', .right⟩, 2⟩] := by
    decide +kernel
  obtain ⟨held, sizes, -, -, listed⟩ := filled_holds_last supplies
  obtain ⟨found, known, -⟩ := held ⟨"A", '0'⟩
  have counted := (listed _ table.pairs.reverse_perm).2.2
  rw [rules] at found known sizes counted ⊢
  exact ⟨rfl, sizes.trans (by decide), found.trans (by decide), known.trans (by decide),
    table.pairs.reverse_perm, counted.trans (by decide)⟩

/-! ### Filling once more -/

/-- Rules change nothing exactly if the last one of every key is held already. -/
theorem insertAll_eq_self_iff (table : Table) (rules : List Rule) :
    table.insertAll rules = table ↔
      ∀ key rule, lastRule? rules key = some rule → table.find? key = some (entryOf rule) := by
  constructor
  · intro same key rule last
    rw [← same, find?_insertAll, last]
    rfl
  · intro held
    refine ext_find? fun key => ?_
    rw [find?_insertAll]
    cases last : lastRule? rules key with
    | none => rfl
    | some rule => exact (held key rule last).symm

/-- A rule that a later one replaced is put back on the way, but it is not the last of its key. -/
theorem insertAll_again (table : Table) (rules : List Rule) :
    (table.insertAll rules).insertAll rules = table.insertAll rules := by
  rw [insertAll_eq_self_iff]
  intro key rule last
  rw [find?_insertAll, last]
  rfl

end Table

/-- A source that is read into a table a second time is answered in the same way, and leaves the
table as the first time left it. -/
theorem Dialect.read_into_again (dialect : Dialect) (source : String) (table : Table) :
    let first := (dialect.read source).into Table.insert table
    (dialect.read source).into Table.insert first.2 = first := by
  -- What is read depends on the source alone, so both times the same rules are inserted.
  let reading := dialect.read source
  change (reading.result, (table.insertAll reading.rules).insertAll reading.rules) =
    (reading.result, table.insertAll reading.rules)
  rw [Table.insertAll_again]

end TuringScript
