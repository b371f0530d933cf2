import TuringScript.Proofs.Machine.Silence

/-!
# Sweeps

Where a machine stands is its state and its tape. A path is a row of steps from one place to
another; a machine without a limit and without listeners runs along its path to the end, and ends
there if no rule leads on. A sweep is the path of a state that rewrites a word and keeps itself.
-/
namespace TuringScript

structure Place where
  state : String
  tape : Tape
  deriving DecidableEq, Repr

namespace Table

/-- A place, a number of steps that find a rule, and the place that they lead to. -/
inductive Path (table : Table) : Place → Nat → Place → Prop where
  | here (place : Place) : Path table place 0 place
  | step {state : String} {tape : Tape} {transition : Transition} {count : Nat} {last : Place}
      (found : table.lookup? ⟨state, tape.head⟩ = some transition)
      (later : Path table
        ⟨transition.nextState, (tape.write transition.write).move transition.direction⟩ count last) :
      Path table ⟨state, tape⟩ (count + 1) last

/-- No rule leads on. -/
def Stuck (table : Table) (place : Place) : Prop :=
  table.lookup? ⟨place.state, place.tape.head⟩ = none

end Table

/-! ### Tapes around the head -/

namespace Tape

/-- The head on the first cell of a text, or behind all stored cells if the text is empty. The cells
before it are given nearest first. -/
def facingRight (left : List Char) : List Char → Tape
  | [] => ⟨left, Alphabet.blank, []⟩
  | first :: rest => ⟨left, first, rest⟩

/-- The head on the first of some cells that are given from right to left, or before all stored
cells if there are none. -/
def facingLeft (right : List Char) : List Char → Tape
  | [] => ⟨[], Alphabet.blank, right⟩
  | first :: rest => ⟨rest, first, right⟩

variable (left right : List Char) (head : Char)

@[simp]
theorem facingRight_nil : facingRight left [] = ⟨left, Alphabet.blank, []⟩ := rfl

@[simp]
theorem facingRight_cons : facingRight left (head :: right) = ⟨left, head, right⟩ := rfl

@[simp]
theorem facingLeft_nil : facingLeft right [] = ⟨[], Alphabet.blank, right⟩ := rfl

@[simp]
theorem facingLeft_cons : facingLeft right (head :: left) = ⟨left, head, right⟩ := rfl

theorem ofString_eq_facingRight (content : String) :
    ofString content = facingRight [] content.toList := by
  unfold ofString
  cases content.toList <;> simp [blank]

theorem moveRight_eq_facingRight :
    (Tape.mk left head right).moveRight = facingRight (head :: left) right := by
  cases right <;> simp [moveRight]

theorem moveLeft_eq_facingLeft :
    (Tape.mk left head right).moveLeft = facingLeft (head :: right) left := by
  cases left <;> simp [moveLeft]

theorem headIndex_facingLeft : (facingLeft right left).headIndex = left.length - 1 := by
  cases left <;> simp [headIndex]

theorem cells_facingLeft {left : List Char} (stored : left ≠ []) (right : List Char) :
    (facingLeft right left).cells = left.reverse ++ right := by
  cases left with
  | nil => contradiction
  | cons head left => simp [cells]

end Tape

/-! ### Paths -/

namespace Table.Path

variable {table : Table} {first middle last : Place} {count more : Nat}

theorem trans (front : table.Path first count middle) (back : table.Path middle more last) :
    table.Path first (count + more) last := by
  induction front with
  | here => rwa [Nat.zero_add]
  | step found _ ih =>
    rw [Nat.add_right_comm]
    exact .step found (ih back)

/-- A step that is made on a tape that is given by its cells. -/
theorem single {state nextState : String} {left right : List Char} {head write : Char}
    {direction : Direction}
    (found : table.lookup? ⟨state, head⟩ = some ⟨nextState, write, direction⟩) :
    table.Path ⟨state, ⟨left, head, right⟩⟩ 1
      ⟨nextState, (Tape.mk left write right).move direction⟩ :=
  .step found (.here _)

/-- A state that moves right and keeps itself over all characters of a word takes the head behind
the word, which is rewritten one character at a time. -/
theorem sweep {state : String} {rewrite : Char → Char} {word : List Char}
    (rules : ∀ c ∈ word, table.lookup? ⟨state, c⟩ = some ⟨state, rewrite c, .right⟩)
    (left rest : List Char) :
    table.Path ⟨state, .facingRight left (word ++ rest)⟩ word.length
      ⟨state, .facingRight ((word.map rewrite).reverse ++ left) rest⟩ := by
  induction word generalizing left with
  | nil => exact .here _
  | cons c word ih =>
    obtain ⟨rule, rules⟩ := List.forall_mem_cons.mp rules
    -- What has been rewritten is behind the head, so the left side grows with every step.
    have later := ih rules (rewrite c :: left)
    rw [← Tape.moveRight_eq_facingRight] at later
    have whole := (single rule).trans later
    rw [List.length_cons, Nat.add_comm, List.map_cons, List.reverse_cons, List.append_assoc]
    exact whole

/-- A sweep that leaves the word as it is. -/
theorem pass {state : String} {word : List Char}
    (rules : ∀ c ∈ word, table.lookup? ⟨state, c⟩ = some ⟨state, c, .right⟩)
    (left rest : List Char) :
    table.Path ⟨state, .facingRight left (word ++ rest)⟩ word.length
      ⟨state, .facingRight (word.reverse ++ left) rest⟩ := by
  have same : ∀ c ∈ word, table.lookup? ⟨state, c⟩ = some ⟨state, id c, .right⟩ := rules
  simpa using sweep same left rest

end Table.Path

/-! ### Runs along a path -/

namespace Machine

def place (machine : Machine) : Place := ⟨machine.state, machine.tape⟩

variable {table : Table} {machine : Machine} {count : Nat} {last : Place}

/-- A machine takes the steps of its path. -/
theorem after_of_path (loaded : machine.table = table)
    (path : table.Path machine.place count last) :
    (count : ℕ∞) ≤ machine.successes ∧ (machine.after count).place = last := by
  generalize begins : machine.place = first at path
  induction path generalizing machine with
  | here => exact ⟨by simp, begins⟩
  | @step state tape transition count last found _ ih =>
    cases begins
    subst loaded
    have stepped := step_of_lookup?_some found
    obtain ⟨moves, arrives⟩ := ih (step_table machine) (by rw [stepped]; rfl)
    -- The steps after the first one are those of the machine that the first one leads to.
    refine ⟨(coe_le_least_iff _ _).mpr fun n below => ?_, arrives⟩
    cases n with
    | zero => simp [after, stepped]
    | succ n => exact (coe_le_least_iff _ _).mp moves n (Nat.lt_of_succ_lt_succ below)

section Unlimited

variable (unlimited : machine.limit = none)
include unlimited

theorem budget_of_unlimited : machine.budget = ⊤ := by
  rw [budget, unlimited]

/-- Without a limit and with nobody to stop it, only a missing rule ends a run. -/
theorem quietLength_of_unlimited : machine.quietLength = machine.successes := by
  rw [quietLength, budget_of_unlimited unlimited, min_top_right]

theorem quietCause_of_unlimited (k : Nat) : machine.quietCause k = .noRule := by
  rw [quietCause, budget_of_unlimited unlimited, if_neg (ENat.top_ne_natCast k)]

/-- A machine that runs alone and without a limit ends where its path gets stuck. -/
theorem runAlone_of_path (loaded : machine.table = table)
    (path : table.Path machine.place count last) (stuck : table.Stuck last) :
    ∃ final, (∀ fuel, machine.runAlone fuel =
        if count < fuel then some (.noRule, final) else none) ∧
      final.place = last ∧ final.steps = machine.steps + count := by
  obtain ⟨moves, arrives⟩ := after_of_path loaded path
  -- The step at the end of the path is the first one that finds no rule.
  have ends : machine.successes = count := by
    refine (least_eq_coe_iff moves).mpr ?_
    rw [Table.Stuck, ← arrives, ← loaded, ← after_table count machine] at stuck
    rw [step_fst, Option.isSome_eq_false_iff, Option.isNone_iff_eq_none]
    exact stuck
  have length : machine.quietLength = count := (quietLength_of_unlimited unlimited).trans ends
  have same := configuration_ended machine length
  simp only [configuration, Prod.mk.injEq] at same
  obtain ⟨state, tape, -, -⟩ := same
  refine ⟨machine.ended (machine.quietCause count) count, fun fuel => ?_, ?_,
    steps_ended machine length⟩
  · rw [runAlone_of_quietLength machine length, quietCause_of_unlimited unlimited]
  · rw [← arrives, place, place, state, tape]

end Unlimited

end Machine
end TuringScript
