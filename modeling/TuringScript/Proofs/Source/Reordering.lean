import Mathlib.Data.Finset.Max
import Mathlib.Data.Fintype.Basic
import Mathlib.Data.List.FinRange
import TuringScript.Proofs.Source.Lines
import TuringScript.Proofs.Table.Filling

/-!
# The order of lines

Lines may change places as long as two lines that have a rule for the same key stay in order. The
last line with a rule for a key is then the same line wherever it has moved to, so the table has the
same transitions, and the line of each is the new number of the line it had.
-/
namespace TuringScript

variable {n : Nat}

/-! ### Rules of numbered lines -/

/-- The rules of a line, as if it were the line with number zero. -/
def Dialect.expansion (dialect : Dialect) (line : String) : List Rule :=
  (dialect.readLine 0 line).rules

/-- The rules of all lines in order, with the lines numbered from one. -/
def numbered (parts : Fin n → List Rule) : List Rule :=
  (List.finRange n).flatMap fun i => (parts i).map (Rule.shift (i + 1))

/-- Two lists with a rule for the same key. -/
def Overlap (rules others : List Rule) : Prop :=
  ∃ first ∈ rules, ∃ second ∈ others, first.key = second.key

instance (rules others : List Rule) : Decidable (Overlap rules others) :=
  inferInstanceAs (Decidable (∃ first ∈ rules, ∃ second ∈ others, first.key = second.key))

namespace Reading

variable {dialect : Dialect} {lines : Fin n → String}

theorem reportsFrom_ofFn (dialect : Dialect) (lines : Fin n → String) :
    reportsFrom dialect 1 ((List.ofFn lines).map .ok) =
      (List.finRange n).map fun i =>
        ⟨i + 1, (dialect.readLine 0 (lines i)).shift (i + 1)⟩ := by
  apply List.ext_getElem
  · simp [reportsFrom]
  · intro index inside _
    simp [reportsFrom, ← Dialect.readLine_add]

theorem error?_ofLines_ofFn (dialect : Dialect) (lines : Fin n → String) :
    (ofLines dialect ((List.ofFn lines).map .ok)).error? = none ↔
      ∀ i, (dialect.readLine 0 (lines i)).fault? = none := by
  rw [error?_ofLines, reportsFrom_ofFn]
  simp [error?]

theorem rules_ofLines_ofFn (faultless : ∀ i, (dialect.readLine 0 (lines i)).fault? = none) :
    (ofLines dialect ((List.ofFn lines).map .ok)).rules =
      numbered fun i => dialect.expansion (lines i) := by
  have accepted := (error?_ofLines_ofFn dialect lines).mpr faultless
  rw [error?_ofLines] at accepted
  rw [ofLines_eq, untilFault_of_faultless accepted, reportsFrom_ofFn]
  simp [rules, numbered, Dialect.expansion, List.flatMap_map]

end Reading

/-! ### The last line of a key -/

namespace Table

theorem lastRule?_map_shift (d : Nat) (rules : List Rule) (key : Key) :
    lastRule? (rules.map (Rule.shift d)) key = (lastRule? rules key).map (Rule.shift d) := by
  rw [lastRule?, List.filter_map, List.getLast?_map]
  rfl

theorem lastRule?_flatMap_eq_none_iff {α : Type} (items : List α) (rules : α → List Rule)
    (key : Key) :
    lastRule? (items.flatMap rules) key = none ↔
      ∀ item ∈ items, lastRule? (rules item) key = none := by
  simp only [lastRule?_eq_none_iff, List.mem_flatMap, forall_exists_index, and_imp]
  exact ⟨fun all item listed rule member => all rule item listed member,
    fun all rule item listed member => all item listed rule member⟩

variable {parts : Fin n → List Rule} {key : Key}

theorem lastRule?_numbered_eq_none (absent : ∀ i, lastRule? (parts i) key = none) :
    lastRule? (numbered parts) key = none := by
  rw [numbered, lastRule?_flatMap_eq_none_iff]
  intro i _
  rw [lastRule?_map_shift, absent, Option.map_none]

/-- What comes after the last part with a rule for a key does not count. -/
theorem lastRule?_numbered {i : Fin n} {rule : Rule} (last : lastRule? (parts i) key = some rule)
    (later : ∀ j, i < j → lastRule? (parts j) key = none) :
    lastRule? (numbered parts) key = some (rule.shift (i + 1)) := by
  obtain ⟨front, back, parted⟩ := List.mem_iff_append.mp (List.mem_finRange i)
  have sorted := List.pairwise_lt_finRange n
  rw [parted, List.pairwise_append, List.pairwise_cons] at sorted
  have behind : lastRule? (back.flatMap fun j => (parts j).map (Rule.shift (j + 1))) key = none :=
    (lastRule?_flatMap_eq_none_iff ..).mpr fun j member => by
      rw [lastRule?_map_shift, later j (sorted.2.1.1 j member), Option.map_none]
  rw [numbered, parted, List.flatMap_append, List.flatMap_cons, lastRule?_append,
    lastRule?_append, behind, lastRule?_map_shift, last]
  rfl

/-- Parts in another order, that keeps those that overlap as they were: the last rule of a key
belongs to the same part, in its old place and in its new one. -/
theorem lastRule?_reordered (parts : Fin n → List Rule) {order : Equiv.Perm (Fin n)}
    (keeps : ∀ i j, i < j → Overlap (parts (order i)) (parts (order j)) → order i < order j)
    (key : Key) :
    (lastRule? (numbered parts) key = none ∧
      lastRule? (numbered fun i => parts (order i)) key = none) ∨
    ∃ (i : Fin n) (rule : Rule), rule ∈ parts (order i) ∧
      lastRule? (numbered parts) key = some (rule.shift (order i + 1)) ∧
      lastRule? (numbered fun i => parts (order i)) key = some (rule.shift (i + 1)) := by
  by_cases absent : ∀ i, lastRule? (parts i) key = none
  · exact .inl ⟨lastRule?_numbered_eq_none absent,
      lastRule?_numbered_eq_none fun i => absent (order i)⟩
  · right
    -- The last of the parts that have a rule for the key, and where the order takes it.
    have present : (Finset.univ.filter fun i => lastRule? (parts i) key ≠ none).Nonempty := by
      simpa only [Finset.filter_nonempty_iff, Finset.mem_univ, true_and, not_forall] using absent
    obtain ⟨last, member, largest⟩ := Finset.exists_max_image _ id present
    simp only [Finset.mem_filter, Finset.mem_univ, true_and, id_eq] at member largest
    obtain ⟨i, rfl⟩ := order.surjective last
    obtain ⟨rule, found⟩ := Option.ne_none_iff_exists'.mp member
    obtain ⟨inside, same⟩ := mem_of_lastRule?_eq_some found
    refine ⟨i, rule, inside, lastRule?_numbered found ?_, lastRule?_numbered found ?_⟩
    · intro j after
      by_contra other
      exact absurd after (not_lt.mpr (largest j other))
    -- A part that comes after it now and has a rule for the key would have come after it before.
    · intro j after
      by_contra other
      obtain ⟨second, found⟩ := Option.ne_none_iff_exists'.mp other
      obtain ⟨listed, alike⟩ := mem_of_lastRule?_eq_some found
      have kept := keeps i j after ⟨rule, inside, second, listed, same.trans alike.symm⟩
      exact absurd kept (not_lt.mpr (largest (order j) other))

/-- Whatever the order, there are the same keys, each as often as before. -/
theorem keys_reordered (parts : Fin n → List Rule) (order : Equiv.Perm (Fin n)) :
    ((numbered fun i => parts (order i)).map Rule.key).Perm ((numbered parts).map Rule.key) := by
  have shifted (d : Nat) (rules : List Rule) :
      (rules.map (Rule.shift d)).map Rule.key = rules.map Rule.key := List.map_map
  have moved := order.map_finRange_perm.flatMap_right fun i => (parts i).map Rule.key
  rw [List.flatMap_map] at moved
  simpa only [numbered, List.map_flatMap, shifted] using moved

/-- Rules with the same keys fill tables of the same size and with as many states. -/
theorem sizes_ofRules_of_perm {rules others : List Rule}
    (keys : (rules.map Rule.key).Perm (others.map Rule.key)) :
    (ofRules rules).size = (ofRules others).size ∧
      (ofRules rules).stateCount = (ofRules others).stateCount := by
  have states := keys.map Key.state
  rw [List.map_map, List.map_map] at states
  rw [size_ofRules, size_ofRules, stateCount_ofRules, stateCount_ofRules,
    List.toFinset_eq_of_perm _ _ keys]
  exact ⟨rfl, congrArg Finset.card (List.toFinset_eq_of_perm _ _ states)⟩

end Table

/-! ### Sources -/

/-- The lines of a source in another order. -/
def reordered (lines : List String) (order : Equiv.Perm (Fin lines.length)) : List String :=
  List.ofFn fun i => lines[order i]

namespace Dialect

open Reading

/-- Lines that are all read without a fault, and the table that they make. -/
theorem into_intercalate_ofFn {dialect : Dialect} {lines : Fin n → String}
    (areLines : ∀ i, Text.IsLine (lines i).toList)
    (faultless : ∀ i, (dialect.readLine 0 (lines i)).fault? = none) :
    (dialect.read ("\n".intercalate (List.ofFn lines))).into Table.insert .empty =
      (.ok (numbered fun i => dialect.expansion (lines i)).length,
        Table.ofRules (numbered fun i => dialect.expansion (lines i))) := by
  obtain ⟨error, rules⟩ := read_intercalate dialect (List.forall_mem_ofFn_iff.mpr areLines)
  rw [(error?_ofLines_ofFn dialect lines).mpr faultless] at error
  rw [rules_ofLines_ofFn faultless] at rules
  rw [into, (result_eq_ok_iff _ _).mpr ⟨error, congrArg List.length rules⟩, rules]
  rfl

/-- An accepted source whose lines are put in another order, that keeps any two lines with a rule
for the same key as they were, is accepted with the same number of rules. It makes a table with the
same transitions, and the line of each is where the line that it had before has gone. -/
theorem read_reordered (dialect : Dialect) (lines : List String)
    (order : Equiv.Perm (Fin lines.length)) (count : Nat)
    (areLines : ∀ line ∈ lines, Text.IsLine line.toList)
    (keeps : ∀ i j, i < j →
      Overlap (dialect.expansion lines[order i]) (dialect.expansion lines[order j]) →
      order i < order j)
    (reads : (dialect.read ("\n".intercalate lines)).result = .ok count) :
    let before := (dialect.read ("\n".intercalate lines)).into Table.insert .empty
    let after := (dialect.read ("\n".intercalate (reordered lines order))).into Table.insert .empty
    after.1 = .ok count ∧
    (∀ key, after.2.lookup? key = before.2.lookup? key) ∧
    after.2.size = before.2.size ∧ after.2.stateCount = before.2.stateCount ∧
    ∀ key, (before.2.line? key = none ∧ after.2.line? key = none) ∨
      ∃ i : Fin lines.length, before.2.line? key = some ((order i : Nat) + 1) ∧
        after.2.line? key = some ((i : Nat) + 1) := by
  have areLinesAt (i : Fin lines.length) : Text.IsLine lines[i].toList :=
    areLines _ (List.getElem_mem i.isLt)
  have whole : List.ofFn (fun i : Fin lines.length => lines[i]) = lines := List.ofFn_getElem
  obtain ⟨error, -⟩ := (result_eq_ok_iff _ _).mp reads
  rw [(read_intercalate dialect areLines).1, ← whole, error?_ofLines_ofFn] at error
  -- Both sources are read without a fault, so each makes the table of all its rules.
  have first := into_intercalate_ofFn areLinesAt error
  have second := into_intercalate_ofFn (fun i => areLinesAt (order i)) (fun i => error (order i))
  rw [whole] at first
  have counted : (numbered fun i : Fin lines.length => dialect.expansion lines[i]).length = count :=
    Except.ok.inj ((congrArg Prod.fst first).symm.trans reads)
  intro before after
  have beforeEq : before = _ := first
  have afterEq : after = _ := second
  have keys := Table.keys_reordered (fun i => dialect.expansion lines[i]) order
  have last := Table.lastRule?_reordered (fun i => dialect.expansion lines[i]) keeps
  obtain ⟨sizes, states⟩ := Table.sizes_ofRules_of_perm keys
  have lengths := keys.length_eq
  rw [List.length_map, List.length_map, counted] at lengths
  rw [beforeEq, afterEq]
  refine ⟨congrArg Except.ok lengths, fun key => ?_, sizes, states, fun key => ?_⟩
  · rw [Table.lookup?_ofRules, Table.lookup?_ofRules]
    rcases last key with ⟨was, is⟩ | ⟨i, rule, -, was, is⟩
    · rw [was, is]
    · rw [was, is]
      rfl
  · rw [Table.line?_ofRules, Table.line?_ofRules]
    rcases last key with ⟨was, is⟩ | ⟨i, rule, inside, was, is⟩
    · exact .inl ⟨congrArg _ was, congrArg _ is⟩
    · have start : rule.line = 0 := line_of_mem_readLine (error (order i)) inside
      have moved (d : Nat) : (rule.shift d).line = d := by rw [Rule.shift, start, Nat.zero_add]
      rw [was, is, Option.map_some, Option.map_some, moved, moved]
      exact .inr ⟨i, rfl, rfl⟩

/-- Its second line is a comment, and its last one makes over the second rule of its first one. -/
def turnLines : List String :=
  ["(A,[01],B,1,>)", "# turn", "(B,1,A,1,-)", "(A,1,C,0,<)"]

/-- The first two lines change places, and so do the last two. -/
def turnOrder : Equiv.Perm (Fin turnLines.length) :=
  show Equiv.Perm (Fin 4) from (Equiv.swap 0 1).trans (Equiv.swap 2 3)

theorem read_reordered_turnLines :
    let after :=
      (standard.read ("\n".intercalate (reordered turnLines turnOrder))).into Table.insert .empty
    reordered turnLines turnOrder =
      ["# turn", "(A,[01],B,1,>)", "(A,1,C,0,<)", "(B,1,A,1,-)"] ∧
    after.1 = .ok 4 ∧ after.2.lookup? ⟨"A", '1'⟩ = some ⟨"C", '0', .left⟩ ∧
    after.2.line? ⟨"A", '1'⟩ = some 3 := by
  have accepted : (standard.read ("\n".intercalate turnLines)).result = .ok 4 :=
    (result_eq_ok_iff _ _).mpr ⟨by decide +kernel, by decide +kernel⟩
  obtain ⟨counted, found, -, -, moved⟩ := read_reordered standard turnLines turnOrder 4
    (by decide +kernel) (by decide +kernel) accepted
  let given := ((standard.read ("\n".intercalate turnLines)).into Table.insert .empty).2
  have was : given.lookup? ⟨"A", '1'⟩ = some ⟨"C", '0', .left⟩ ∧ given.line? ⟨"A", '1'⟩ = some 4 :=
    by decide +kernel
  intro after
  refine ⟨by decide +kernel, counted, ?_, ?_⟩
  · rw [found, was.1]
  · have third : ∀ i, (turnOrder i : Nat) + 1 = 4 → (i : Nat) + 1 = 3 := by decide
    rcases moved ⟨"A", '1'⟩ with ⟨absent, -⟩ | ⟨i, before, after⟩
    · rw [was.2] at absent
      cases absent
    · rw [was.2] at before
      rw [after, third i (Option.some.inj before).symm]

end Dialect
end TuringScript
