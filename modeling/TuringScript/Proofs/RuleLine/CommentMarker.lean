import TuringScript.Proofs.RuleLine.LeftBehind
import TuringScript.Proofs.Text.UpperCase

/-!
# The comment marker

The marker is compared with the folded line. A line that begins with the marker is therefore a
comment only if folding leaves the marker as it is. A marker that folding changes is found at the
front of no line that begins with it, and the line is read for a rule.
-/
namespace TuringScript.Dialect

/-- Folding leaves the comment marker as it is. -/
def KeepsMarker (dialect : Dialect) : Prop :=
  dialect.ignoreCase = true → Text.upperCase dialect.commentMarker = [dialect.commentMarker]

variable {dialect : Dialect} {line : String}

theorem skips_fold_iff_keepsMarker (begins : line.toList.head? = some dialect.commentMarker) :
    dialect.skips (dialect.fold line) = true ↔ dialect.KeepsMarker := by
  obtain ⟨rest, text⟩ := List.head?_eq_some_iff.mp begins
  cases folds : dialect.ignoreCase with
  | false => simp [skips, fold, KeepsMarker, folds, text]
  | true =>
    have folded : dialect.fold line =
        Text.upperCase dialect.commentMarker ++ Text.upperCaseAll rest := by
      simp only [fold, folds, if_true, text]
      rfl
    rcases Text.upperCase_cases dialect.commentMarker with kept | ⟨first, front, other, visible⟩
    · simp [skips, KeepsMarker, folded, kept]
    -- A marker that is changed puts a character in front that neither begins a comment nor is blank.
    · obtain ⟨back, changed⟩ := List.head?_eq_some_iff.mp front
      simp [skips, KeepsMarker, folds, folded, changed, other, visible]

/-- A line that is not skipped hands over a rule, or reports a fault. -/
theorem result_readOne_ne_ok_zero (number : Nat)
    (holds : dialect.skips (dialect.fold line) = false) :
    (dialect.readOne number line).result ≠ .ok 0 := by
  intro none
  rw [result_readOne, readLine_eq, holds, if_neg Bool.false_ne_true] at none
  cases made : dialect.template number line with
  | error fault =>
    rw [made] at none
    cases none
  | ok template =>
    obtain ⟨texts, -, making⟩ := bind_eq_ok_iff.mp made
    rw [made] at none
    rcases RuleTemplate.outcome_cases (RuleLine.ready_of_template making).1 with
      ⟨faultless, all⟩ | ⟨k, -, faulty, -⟩
    · have count := congrArg List.length all
      have some := template.total_pos
      simp only [faultless, Except.ok.injEq] at none
      simp only [List.length_map, List.length_range, none] at count
      omega
    · simp only [faulty, reduceCtorEq] at none

/-- A line that begins with the comment marker is skipped, so that nothing is handed over and the
number returned is zero, exactly if folding leaves the marker as it is. -/
theorem readOne_into_comment_iff {τ : Type} (dialect : Dialect) (number : Nat) (line : String)
    (begins : line.toList.head? = some dialect.commentMarker) (add : τ → Rule → τ) (sink : τ) :
    (dialect.readOne number line).into add sink = (.ok 0, sink) ↔ dialect.KeepsMarker := by
  rw [← skips_fold_iff_keepsMarker begins]
  constructor
  · intro nothing
    by_contra holds
    exact result_readOne_ne_ok_zero number (by simpa using holds) (congrArg Prod.fst nothing)
  · intro skipped
    rw [Reading.into, result_readOne, rules_readOne, readLine_eq, if_pos skipped]
    rfl

/-- A comment after the standard marker. -/
def note : String := "# (A,0,B,1,>)"

theorem readOne_into_comment_iff_note :
    note.toList.head? = some standard.commentMarker ∧ standard.KeepsMarker ∧
    (standard.readOne 3 note).into List.concat [] = (.ok 0, []) := by
  have begins : note.toList.head? = some standard.commentMarker := by decide
  have keeps : standard.KeepsMarker := fun _ => by decide
  exact ⟨begins, keeps, (readOne_into_comment_iff standard 3 note begins List.concat []).mpr keeps⟩

/-- With the marker `x` and folding, a line that begins with the marker hands over a rule. -/
theorem not_readOne_into_comment :
    ¬ ∀ (dialect : Dialect) (number : Nat) (line : String),
      line.toList.head? = some dialect.commentMarker →
        (dialect.readOne number line).into List.concat [] = (.ok 0, []) := by
  intro law
  have nothing := congrArg Prod.snd (law ⟨true, 'x'⟩ 1 "x,0,B,1,>" (by decide))
  have handed : ((Dialect.mk true 'x').readOne 1 "x,0,B,1,>").rules =
      [⟨⟨"X", '0'⟩, ⟨"B", '1', .right⟩, 1⟩] := by
    decide +kernel
  simp only [Reading.into, handed] at nothing
  cases nothing

end TuringScript.Dialect
