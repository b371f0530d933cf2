import Std.Data.ExtTreeMap
import TuringScript.Rule

/-!
# Rule tables

A table holds at most one transition for each key and, in a map of its own, the line of the rule
that put it there. A rule is written to both maps, and replaces in either what an earlier rule of
the same key has left; so they have the same keys. Entries are listed in the order of state and
symbol, each by code points, and tables with the same entries are equal.
-/
namespace TuringScript

instance : Ord Key := ⟨compareLex (compareOn Key.state) (compareOn Key.symbol)⟩

instance : Std.TransOrd Key :=
  inferInstanceAs (Std.TransCmp (compareLex (compareOn Key.state) (compareOn Key.symbol)))

instance : Std.LawfulEqOrd Key where
  eq_of_compare {a b} equal := by
    change (compare a.state b.state).then (compare a.symbol b.symbol) = .eq at equal
    rw [Ordering.then_eq_eq, Std.LawfulEqOrd.compare_eq_iff_eq,
      Std.LawfulEqOrd.compare_eq_iff_eq] at equal
    cases a
    cases b
    simp_all

namespace Table

/-! ### Maps in step -/

variable {α β : Type}

/-- Neither map has a key that the other one lacks. -/
def InStep (first : Std.ExtTreeMap Key α) (second : Std.ExtTreeMap Key β) : Prop :=
  ∀ key, key ∈ first ↔ key ∈ second

/-- A map after one thing of a rule was written to it. -/
def write (value : Rule → α) (map : Std.ExtTreeMap Key α) (rule : Rule) : Std.ExtTreeMap Key α :=
  map.insert rule.key (value rule)

theorem getElem?_write (value : Rule → α) (map : Std.ExtTreeMap Key α) (rule : Rule) (key : Key) :
    (write value map rule)[key]? = if rule.key = key then some (value rule) else map[key]? := by
  simp [write, Std.ExtTreeMap.getElem?_insert]

theorem mem_write_iff (value : Rule → α) (map : Std.ExtTreeMap Key α) (rule : Rule) (key : Key) :
    key ∈ write value map rule ↔ rule.key = key ∨ key ∈ map := by
  simp [write]

theorem InStep.write {first : Std.ExtTreeMap Key α} {second : Std.ExtTreeMap Key β}
    (inStep : InStep first second) (one : Rule → α) (other : Rule → β) (rule : Rule) :
    InStep (write one first rule) (write other second rule) := by
  intro key
  rw [mem_write_iff, mem_write_iff, inStep key]

end Table

structure Table where
  transitions : Std.ExtTreeMap Key Transition
  lines : Std.ExtTreeMap Key Nat
  inStep : Table.InStep transitions lines
  deriving DecidableEq

/-- What a table holds under a key. -/
structure Entry where
  transition : Transition
  line : Nat
  deriving DecidableEq, Repr

namespace Table

/-! ### Filling -/

def empty : Table where
  transitions := {}
  lines := {}
  inStep key := by simp

def insert (table : Table) (rule : Rule) : Table where
  lines := write Rule.line table.lines rule
  transitions := write Rule.transition table.transitions rule
  inStep := table.inStep.write Rule.transition Rule.line rule

def insertAll (table : Table) (rules : List Rule) : Table :=
  rules.foldl insert table

def ofRules (rules : List Rule) : Table := empty.insertAll rules

/-! ### Looking up -/

def lookup? (table : Table) (key : Key) : Option Transition := table.transitions[key]?

/-- The line of the rule behind a key. -/
def line? (table : Table) (key : Key) : Option Nat := table.lines[key]?

/-- The transition and the line of a key. -/
def find? (table : Table) (key : Key) : Option Entry :=
  match table.lookup? key, table.line? key with
  | some transition, some line => some ⟨transition, line⟩
  | _, _ => none

/-! ### Listing and counting -/

def size (table : Table) : Nat := table.transitions.size

def isEmpty (table : Table) : Bool := table.transitions.isEmpty

/-- The keys and their transitions. -/
def pairs (table : Table) : List (Key × Transition) := table.transitions.toList

def keys (table : Table) : List Key := table.pairs.map Prod.fst

def toList (table : Table) : List (Key × Entry) :=
  table.pairs.filterMap fun (key, transition) =>
    (table.line? key).map fun line => (key, ⟨transition, line⟩)

/-- Leaves out whatever equals the item before it. -/
def dropRepeats {α : Type} [DecidableEq α] : List α → List α
  | first :: second :: rest =>
    if first = second then dropRepeats (second :: rest) else first :: dropRepeats (second :: rest)
  | items => items

/-- The number of different states among keys. In order, equal states are side by side. -/
def countStates (keys : List Key) : Nat :=
  (dropRepeats ((keys.map Key.state).mergeSort fun a b => decide (a ≤ b))).length

/-- The number of different states that have a rule. -/
def stateCount (table : Table) : Nat := countStates table.keys

/-! ### Entries -/

theorem isSome_lookup?_iff (table : Table) (key : Key) :
    (table.lookup? key).isSome ↔ (table.line? key).isSome := by
  rw [lookup?, line?, Std.ExtTreeMap.isSome_getElem?_iff_mem,
    Std.ExtTreeMap.isSome_getElem?_iff_mem, table.inStep key]

theorem map_transition_find? (table : Table) (key : Key) :
    (table.find? key).map Entry.transition = table.lookup? key := by
  have both := table.isSome_lookup?_iff key
  unfold find?
  cases found : table.lookup? key <;> cases known : table.line? key <;> simp_all

theorem map_line_find? (table : Table) (key : Key) :
    (table.find? key).map Entry.line = table.line? key := by
  have both := table.isSome_lookup?_iff key
  unfold find?
  cases found : table.lookup? key <;> cases known : table.line? key <;> simp_all

theorem ext_find? {left right : Table} (same : ∀ key, left.find? key = right.find? key) :
    left = right := by
  have transitions : left.transitions = right.transitions := by
    refine Std.ExtTreeMap.ext_getElem? fun key => ?_
    change left.lookup? key = right.lookup? key
    rw [← map_transition_find?, same, map_transition_find?]
  have lines : left.lines = right.lines := by
    refine Std.ExtTreeMap.ext_getElem? fun key => ?_
    change left.line? key = right.line? key
    rw [← map_line_find?, same, map_line_find?]
  cases left
  cases right
  simp only [Table.mk.injEq]
  exact ⟨transitions, lines⟩

theorem lookup?_empty (key : Key) : empty.lookup? key = none := by
  simp [lookup?, empty]

theorem line?_empty (key : Key) : empty.line? key = none := by
  simp [line?, empty]

theorem find?_empty (key : Key) : empty.find? key = none := by
  rw [find?, lookup?_empty]

end Table
end TuringScript
