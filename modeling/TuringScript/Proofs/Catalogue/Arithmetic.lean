import Mathlib.Data.Nat.Digits.Defs
import TuringScript.Proofs.Catalogue.Entries

/-!
# Machines that add

The binary increment goes to the last digit of its input and carries from there. The unary addition
joins two rows of marks at their separator and takes one mark away at the end. Both halt on every
input of their kind, with the sum on the tape and after a number of steps that the input tells.
-/
namespace TuringScript.Catalogue

/-! ### Binary numerals -/

def Binary (text : String) : Prop := ∀ c ∈ text.toList, c = '0' ∨ c = '1'

/-- The number that digits denote, the lowest digit given first. -/
def valueOf (digits : List Char) : Nat :=
  Nat.ofDigits 2 (digits.map fun c => if c = '1' then 1 else 0)

/-- The number that a numeral denotes, the highest digit standing first. -/
def value (numeral : String) : Nat := valueOf numeral.toList.reverse

/-- The number of ones in a row that digits begin with. -/
def leadingOnes (digits : List Char) : Nat := (digits.takeWhile (· = '1')).length

def trailingOnes (numeral : String) : Nat := leadingOnes numeral.toList.reverse

/-- One more, by carrying from the lowest digit on. -/
def increment : List Char → List Char
  | [] => ['1']
  | '1' :: digits => '0' :: increment digits
  | _ :: digits => '1' :: digits

theorem valueOf_increment (digits : List Char) :
    valueOf (increment digits) = valueOf digits + 1 := by
  fun_induction increment digits with
  | case1 => rfl
  | case2 digits ih =>
    simp only [valueOf, List.map_cons, Nat.ofDigits_cons] at ih ⊢
    rw [ih]
    simp
    omega
  | case3 c digits other =>
    have zero : c ≠ '1' := fun one => other one
    simp [valueOf, Nat.ofDigits_cons, zero]
    omega

theorem length_increment (digits : List Char) :
    (increment digits).length =
      if digits.all (· = '1') then digits.length + 1 else digits.length := by
  fun_induction increment digits with
  | case1 => rfl
  | case2 digits ih => simp [ih]; split <;> rfl
  | case3 c digits other =>
    have zero : c ≠ '1' := fun one => other one
    simp [zero]

theorem binary_increment {digits : List Char} (binary : ∀ c ∈ digits, c = '0' ∨ c = '1') :
    ∀ c ∈ increment digits, c = '0' ∨ c = '1' := by
  fun_induction increment digits with
  | case1 => simp
  | case2 digits ih => simp_all
  | case3 c digits other => simp_all

/-! ### The binary increment -/

def incrementer : Table := .ofRules binaryIncrementRules

/-- The way back: the head carries from the lowest digit on, and a digit more is stored if the carry
goes past the highest one. -/
theorem exists_path_carry {digits : List Char} (binary : ∀ c ∈ digits, c = '0' ∨ c = '1')
    (right : List Char) :
    ∃ tape, incrementer.Path ⟨"1", .facingLeft right digits⟩
        (leadingOnes digits + 1) ⟨"H", tape⟩ ∧
      tape.cells = (increment digits).reverse ++ right := by
  induction digits generalizing right with
  | nil =>
    have rule : incrementer.lookup? ⟨"1", Alphabet.blank⟩ = some ⟨"H", '1', .stay⟩ := by
      decide
    exact ⟨_, .single rule, rfl⟩
  | cons c digits ih =>
    obtain ⟨digit, others⟩ := List.forall_mem_cons.mp binary
    rcases digit with rfl | rfl
    · have rule : incrementer.lookup? ⟨"1", '0'⟩ = some ⟨"H", '1', .stay⟩ := by
        decide
      refine ⟨_, .single rule, ?_⟩
      simp [Tape.move, Tape.cells, increment]
    · have rule : incrementer.lookup? ⟨"1", '1'⟩ = some ⟨"1", '0', .left⟩ := by
        decide
      -- The carry goes to the next higher digit, or to the blank before the highest one.
      obtain ⟨tape, later, cells⟩ := ih others ('0' :: right)
      rw [← Tape.moveLeft_eq_facingLeft] at later
      refine ⟨tape, ?_, ?_⟩
      · have whole := (Table.Path.single rule).trans later
        rw [Nat.add_comm] at whole
        simp only [leadingOnes, List.takeWhile_cons_of_pos, decide_true, List.length_cons]
        exact whole
      · rw [cells]
        simp [increment]

/-- The way there, the turn at the blank behind the last digit, and the way back. -/
theorem exists_path_increment {word : List Char} (binary : ∀ c ∈ word, c = '0' ∨ c = '1') :
    ∃ tape, incrementer.Path ⟨"0", .facingRight [] word⟩
        (word.length + leadingOnes word.reverse + 2) ⟨"H", tape⟩ ∧
      tape.cells = (increment word.reverse).reverse ++ [Alphabet.blank] := by
  have keep : ∀ c ∈ word, incrementer.lookup? ⟨"0", c⟩ = some ⟨"0", c, .right⟩ := by
    intro c member
    rcases binary c member with rfl | rfl <;> decide
  have turn : incrementer.lookup? ⟨"0", Alphabet.blank⟩ = some ⟨"1", Alphabet.blank, .left⟩ := by
    decide
  have there := Table.Path.pass keep [] []
  simp only [List.append_nil] at there
  have reversed : ∀ c ∈ word.reverse, c = '0' ∨ c = '1' := by
    simpa using binary
  obtain ⟨tape, back, cells⟩ := exists_path_carry reversed [Alphabet.blank]
  -- From the right end the digits of the word come lowest first.
  rw [← Tape.moveLeft_eq_facingLeft] at back
  have whole := there.trans ((Table.Path.single turn).trans back)
  refine ⟨tape, ?_, cells⟩
  rw [show word.length + leadingOnes word.reverse + 2 =
    word.length + (1 + (leadingOnes word.reverse + 1)) by omega]
  exact whole

/-- On every binary numeral the machine halts with the next one and a blank behind it. -/
theorem halts_binaryIncrement (word : String) (binary : Binary word) :
    ∃ sum tape, Halts "Binary Increment" word (word.length + trailingOnes word + 2) "H" tape ∧
      tape.contents = sum.push Alphabet.blank ∧
      Binary sum ∧ value sum = value word + 1 ∧
      sum.length = if word.toList.all (· = '1') then word.length + 1 else word.length := by
  obtain ⟨tape, path, cells⟩ := exists_path_increment binary
  have reversed : ∀ c ∈ word.toList.reverse, c = '0' ∨ c = '1' := by
    intro c member
    exact binary c (List.mem_reverse.mp member)
  refine ⟨.ofList (increment word.toList.reverse).reverse, tape, ?_, ?_, ?_, ?_, ?_⟩
  · rw [← String.length_toList, trailingOnes]
    exact halts_of_path exists_byName_binaryIncrement path (stuck_of_forall_ne (by decide) tape)
  · rw [Tape.contents, cells, String.ofList_append]
    simp
  · simpa [Binary] using binary_increment reversed
  · simp [value, valueOf_increment]
  · simp [length_increment, String.length_toList]

/-- The value of "111" is seven, all its digits carry, and a digit more is stored. -/
theorem halts_binaryIncrement_seven :
    Binary "111" ∧ ∃ sum tape, Halts "Binary Increment" "111" 8 "H" tape ∧
      tape.contents = sum.push Alphabet.blank ∧
      Binary sum ∧ value sum = 8 ∧ sum.length = 4 := by
  have binary : Binary "111" := by
    simp [Binary]
  exact ⟨binary, halts_binaryIncrement "111" binary⟩

/-! ### The unary addition -/

def adder : Table := .ofRules unaryAdditionRules

/-- A number in unary notation. -/
def marks (count : Nat) : List Char := List.replicate count '1'

theorem marks_append_mark_cons (a b : Nat) : marks b ++ '1' :: marks a = '1' :: marks (a + b) := by
  simp only [marks, ← List.replicate_succ, List.replicate_append_replicate]
  rw [Nat.add_comm, Nat.add_right_comm]

/-- Up to the separator, which becomes a mark, from there to the blank behind the last mark, and
back to that mark, which is taken away. -/
theorem path_addition (a b : Nat) :
    adder.Path ⟨"0", .facingRight [] (marks a ++ '+' :: marks b)⟩
      (a + b + 3) ⟨"H", ⟨marks (a + b), Alphabet.blank, [Alphabet.blank]⟩⟩ := by
  have first : ∀ c ∈ marks a, adder.lookup? ⟨"0", c⟩ = some ⟨"0", c, .right⟩ := by
    intro c member
    rw [List.eq_of_mem_replicate member]
    decide
  have join : adder.lookup? ⟨"0", '+'⟩ = some ⟨"1", '1', .right⟩ := by
    decide
  have second : ∀ c ∈ marks b, adder.lookup? ⟨"1", c⟩ = some ⟨"1", c, .right⟩ := by
    intro c member
    rw [List.eq_of_mem_replicate member]
    decide
  have turn : adder.lookup? ⟨"1", Alphabet.blank⟩ = some ⟨"2", Alphabet.blank, .left⟩ := by
    decide
  have erase : adder.lookup? ⟨"2", '1'⟩ = some ⟨"H", Alphabet.blank, .stay⟩ := by
    decide
  have toSeparator : adder.Path ⟨"0", .facingRight [] (marks a ++ '+' :: marks b)⟩ a
      ⟨"0", ⟨marks a, '+', marks b⟩⟩ := by
    simpa [marks] using Table.Path.pass first [] ('+' :: marks b)
  have toEnd : adder.Path ⟨"1", .facingRight ('1' :: marks a) (marks b)⟩ b
      ⟨"1", ⟨'1' :: marks (a + b), Alphabet.blank, []⟩⟩ := by
    rw [← marks_append_mark_cons]
    simpa [marks] using Table.Path.pass second ('1' :: marks a) []
  rw [← Tape.moveRight_eq_facingRight] at toEnd
  -- Behind the last mark the head turns back by one cell, on which it takes a mark away.
  have joined := toSeparator.trans ((Table.Path.single join).trans toEnd)
  have erased := joined.trans ((Table.Path.single turn).trans (.single erase))
  rw [show a + b + 3 = a + (1 + b) + (1 + 1) by omega]
  exact erased

/-- For any two numbers the machine halts with the marks of their sum, and with the head on the
first of the two blanks that it leaves behind them. -/
theorem halts_unaryAddition (a b : Nat) :
    ∃ tape, Halts "Unary Addition" (.ofList (marks a ++ '+' :: marks b)) (a + b + 3) "H" tape ∧
      tape.contents = .ofList (marks (a + b) ++ [Alphabet.blank, Alphabet.blank]) ∧
      tape.headIndex = a + b := by
  refine ⟨⟨marks (a + b), Alphabet.blank, [Alphabet.blank]⟩, ?_, ?_, ?_⟩
  · refine halts_of_path exists_byName_unaryAddition ?_ (stuck_of_forall_ne (by decide) _)
    rw [String.toList_ofList]
    exact path_addition a b
  · simp [Tape.contents, Tape.cells, marks]
  · simp [Tape.headIndex, marks]

end TuringScript.Catalogue
