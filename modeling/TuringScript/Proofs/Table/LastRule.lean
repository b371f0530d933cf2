import Mathlib.Data.List.Induction
import TuringScript.Table

/-!
# The last rule of a key

Each of the two maps of a table is written rule after rule, and keeps for every key what the rule
inserted last among those of that key has left. So a table answers with the transition and the line
of one and the same rule. Inserting what a table holds, in whatever order, makes the table again.
-/
namespace TuringScript.Table

/-- The rule with the given key that comes last. -/
def lastRule? (rules : List Rule) (key : Key) : Option Rule :=
  (rules.filter (·.key = key)).getLast?

theorem lastRule?_append (earlier later : List Rule) (key : Key) :
    lastRule? (earlier ++ later) key = (lastRule? later key).or (lastRule? earlier key) := by
  unfold lastRule?
  rw [List.filter_append, List.getLast?_append]

theorem lastRule?_append_singleton (rules : List Rule) (rule : Rule) (key : Key) :
    lastRule? (rules ++ [rule]) key =
      if rule.key = key then some rule else lastRule? rules key := by
  rw [lastRule?_append]
  by_cases same : rule.key = key <;> simp [lastRule?, same]

/-! ### Map by map -/

/-- A map that rules were written to, whatever it had to begin with. -/
theorem getElem?_foldl_write {α : Type} (value : Rule → α) (map : Std.ExtTreeMap Key α)
    (rules : List Rule) (key : Key) :
    (rules.foldl (write value) map)[key]? = ((lastRule? rules key).map value).or map[key]? := by
  -- From the end of the list: the rule written last wins over all before it.
  induction rules using List.reverseRecOn with
  | nil => rfl
  | append_singleton rules rule ih =>
    rw [List.foldl_append, List.foldl_cons, List.foldl_nil, getElem?_write, ih,
      lastRule?_append_singleton]
    split <;> rfl

theorem transitions_insertAll (table : Table) (rules : List Rule) :
    (table.insertAll rules).transitions = rules.foldl (write Rule.transition) table.transitions :=
  (List.foldl_hom Table.transitions fun _ _ => rfl).symm

theorem lines_insertAll (table : Table) (rules : List Rule) :
    (table.insertAll rules).lines = rules.foldl (write Rule.line) table.lines :=
  (List.foldl_hom Table.lines fun _ _ => rfl).symm

theorem lookup?_insertAll (table : Table) (rules : List Rule) (key : Key) :
    (table.insertAll rules).lookup? key =
      ((lastRule? rules key).map Rule.transition).or (table.lookup? key) := by
  rw [lookup?, transitions_insertAll, getElem?_foldl_write, lookup?]

theorem line?_insertAll (table : Table) (rules : List Rule) (key : Key) :
    (table.insertAll rules).line? key =
      ((lastRule? rules key).map Rule.line).or (table.line? key) := by
  rw [line?, lines_insertAll, getElem?_foldl_write, line?]

theorem lookup?_ofRules (rules : List Rule) (key : Key) :
    (ofRules rules).lookup? key = (lastRule? rules key).map Rule.transition := by
  rw [ofRules, lookup?_insertAll, lookup?_empty, Option.or_none]

theorem line?_ofRules (rules : List Rule) (key : Key) :
    (ofRules rules).line? key = (lastRule? rules key).map Rule.line := by
  rw [ofRules, line?_insertAll, line?_empty, Option.or_none]

/-! ### Both maps together -/

/-- The entry that a rule puts into a table. -/
def entryOf (rule : Rule) : Entry := ⟨rule.transition, rule.line⟩

/-- A key for which nothing is inserted keeps the entry it has. -/
theorem find?_insertAll (table : Table) (rules : List Rule) (key : Key) :
    (table.insertAll rules).find? key =
      ((lastRule? rules key).map entryOf).or (table.find? key) := by
  rw [find?, lookup?_insertAll, line?_insertAll]
  cases lastRule? rules key <;> rfl

theorem find?_ofRules (rules : List Rule) (key : Key) :
    (ofRules rules).find? key = (lastRule? rules key).map entryOf := by
  rw [ofRules, find?_insertAll, find?_empty, Option.or_none]

/-! ### A table made again -/

theorem mem_of_lastRule?_eq_some {rules : List Rule} {key : Key} {rule : Rule}
    (last : lastRule? rules key = some rule) : rule ∈ rules ∧ rule.key = key := by
  have member := List.mem_filter.mp (List.mem_of_getLast? last)
  exact ⟨member.1, of_decide_eq_true member.2⟩

theorem lastRule?_eq_none_iff (rules : List Rule) (key : Key) :
    lastRule? rules key = none ↔ ∀ rule ∈ rules, rule.key ≠ key := by
  rw [lastRule?, List.getLast?_eq_none_iff, List.filter_eq_nil_iff]
  simp only [decide_eq_true_eq, ne_eq]

/-- The rules of a table, in the order of its entries. -/
def rules (table : Table) : List Rule :=
  table.toList.map fun (key, entry) => ⟨key, entry.transition, entry.line⟩

theorem mem_pairs (table : Table) (key : Key) (transition : Transition) :
    (key, transition) ∈ table.pairs ↔ table.lookup? key = some transition :=
  Std.ExtTreeMap.mem_toList_iff_getElem?_eq_some

theorem mem_toList (table : Table) (key : Key) (entry : Entry) :
    (key, entry) ∈ table.toList ↔ table.find? key = some entry := by
  simp only [toList, List.mem_filterMap, Prod.exists, Option.map_eq_some_iff, Prod.mk.injEq]
  constructor
  · rintro ⟨key, transition, member, line, known, rfl, rfl⟩
    rw [find?, (mem_pairs table key transition).mp member, known]
  · intro found
    -- The entry was put together from the two maps, so each of them has its part.
    have first := table.map_transition_find? key
    have second := table.map_line_find? key
    rw [found] at first second
    exact ⟨key, _, (mem_pairs _ _ _).mpr first.symm, _, second.symm, rfl, rfl⟩

theorem mem_rules (table : Table) (rule : Rule) :
    rule ∈ table.rules ↔ table.find? rule.key = some (entryOf rule) := by
  simp only [rules, List.mem_map, Prod.exists, mem_toList]
  constructor
  · rintro ⟨key, entry, found, rfl⟩
    exact found
  · intro found
    exact ⟨rule.key, entryOf rule, found, rfl⟩

/-- Inserting its rules in any order makes the same table. -/
theorem ofRules_of_perm {table : Table} {rules : List Rule} (all : rules.Perm table.rules) :
    ofRules rules = table := by
  have holds (rule : Rule) : rule ∈ rules ↔ table.find? rule.key = some (entryOf rule) := by
    rw [all.mem_iff, mem_rules]
  refine ext_find? fun key => ?_
  rw [find?_ofRules]
  cases last : lastRule? rules key with
  | some rule =>
    obtain ⟨member, rfl⟩ := mem_of_lastRule?_eq_some last
    exact ((holds rule).mp member).symm
  | none =>
    -- An entry under the key would belong to a rule of the list.
    cases found : table.find? key with
    | none => rfl
    | some entry =>
      have member := (holds ⟨key, entry.transition, entry.line⟩).mpr found
      exact absurd rfl ((lastRule?_eq_none_iff rules key).mp last _ member)

end TuringScript.Table
