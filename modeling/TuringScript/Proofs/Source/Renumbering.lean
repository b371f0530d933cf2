import TuringScript.Proofs.RuleLine.LeftBehind
import TuringScript.Proofs.Source.FirstFault

/-!
# Line numbers

No line is read by its number. The number is only carried along, into the rules of the line and into
the error: lines that are counted from further down give the same reading with every number greater
by as much.
-/
namespace TuringScript

/-! ### Moving down -/

/-- The same rule on a line that many lines further down. -/
def Rule.shift (d : Nat) (rule : Rule) : Rule := { rule with line := rule.line + d }

def RuleTemplate.shift (d : Nat) (template : RuleTemplate) : RuleTemplate :=
  { template with line := template.line + d }

def ParseError.shift (d : Nat) (error : ParseError) : ParseError :=
  { error with line := error.line + d }

def LineOutcome.shift (d : Nat) : LineOutcome → LineOutcome
  | .expanded combinations rules fault => .expanded combinations (rules.map (Rule.shift d)) fault
  | outcome => outcome

def LineReport.shift (d : Nat) (report : LineReport) : LineReport :=
  ⟨report.number + d, report.outcome.shift d⟩

def Reading.shift (d : Nat) (reading : Reading) : Reading :=
  ⟨reading.reports.map (LineReport.shift d)⟩

variable (d : Nat)

@[simp] theorem LineOutcome.rules_shift (outcome : LineOutcome) :
    (outcome.shift d).rules = outcome.rules.map (Rule.shift d) := by
  cases outcome <;> rfl

@[simp] theorem LineOutcome.fault?_shift (outcome : LineOutcome) :
    (outcome.shift d).fault? = outcome.fault? := by
  cases outcome <;> rfl

/-! ### Lines -/

theorem RuleFields.rule_add (fields : RuleFields (Option Alternative)) (line : Nat) :
    fields.rule (line + d) = Rule.shift d <$> fields.rule line := by
  simp only [rule, map_bind, map_pure]
  rfl

theorem RuleTemplate.ruleAt_shift (template : RuleTemplate) (k : Nat) :
    (template.shift d).ruleAt k = Rule.shift d <$> template.ruleAt k :=
  RuleFields.rule_add d (template.fields.combination k) template.line

theorem upToError_map {ε α β : Type} (f : α → β) (items : List (Except ε α)) :
    upToError (items.map (f <$> ·)) = ((upToError items).1.map f, (upToError items).2) := by
  induction items with
  | nil => rfl
  | cons item items ih =>
    cases item with
    | error e => rfl
    | ok value =>
      exact congrArg (fun read : List β × Option ε => (f value :: read.1, read.2)) ih

theorem RuleTemplate.outcome_shift (template : RuleTemplate) (ready : template.Ready) :
    (template.shift d).outcome = template.outcome.shift d := by
  have items (combinations : List Nat) : combinations.map (template.shift d).ruleAt =
      (combinations.map template.ruleAt).map (Rule.shift d <$> ·) := by
    rw [List.map_map]
    exact List.map_congr_left fun k _ => template.ruleAt_shift d k
  rw [Expansion.outcome_eq template ready.agree,
    Expansion.outcome_eq (template.shift d) ready.agree, items, upToError_map]
  rfl

theorem RuleLine.FieldTexts.template_add (texts : FieldTexts) (number : Nat) :
    texts.template (number + d) = RuleTemplate.shift d <$> texts.template number := by
  have made (fields : RuleFields CharClass) :
      RuleTemplate.ofFields fields (number + d) =
        RuleTemplate.shift d <$> RuleTemplate.ofFields fields number := by
    simp only [RuleTemplate.ofFields]
    split <;> rfl
  -- The number is first looked at when all five fields are read.
  simp only [FieldTexts.template, map_bind, made]

theorem Dialect.readLine_add (dialect : Dialect) (number : Nat) (line : String) :
    dialect.readLine (number + d) line = (dialect.readLine number line).shift d := by
  have moved : dialect.template (number + d) line =
      RuleTemplate.shift d <$> dialect.template number line := by
    simp only [template, map_bind, RuleLine.FieldTexts.template_add]
  rw [readLine_eq, readLine_eq, moved]
  split
  · rfl
  · cases made : dialect.template number line with
    | error fault => rfl
    | ok template =>
      obtain ⟨texts, -, making⟩ := bind_eq_ok_iff.mp made
      exact template.outcome_shift d (RuleLine.ready_of_template making).1

/-! ### Readings -/

namespace Reading

theorem reportsFrom_add (dialect : Dialect) (first : Nat) (lines : List (Except String String)) :
    reportsFrom dialect (first + d) lines =
      (reportsFrom dialect first lines).map (LineReport.shift d) := by
  apply List.ext_getElem
  · simp [reportsFrom]
  · intro index inside _
    simp only [reportsFrom, List.length_mapIdx] at inside
    simp only [reportsFrom, List.getElem_map, List.getElem_mapIdx, LineReport.shift,
      ← Nat.add_assoc]
    cases lines[index] with
    | error reason => rfl
    | ok text => simp only [Dialect.readLine_add]

theorem untilFault_map_shift (reports : List LineReport) :
    untilFault (reports.map (LineReport.shift d)) =
      (untilFault reports).map (LineReport.shift d) := by
  induction reports with
  | nil => rfl
  | cons report reports ih =>
    rw [List.map_cons, untilFault_cons, untilFault_cons, ih]
    simp only [LineReport.shift, LineOutcome.fault?_shift]
    split <;> rfl

@[simp] theorem rules_shift (reading : Reading) :
    (reading.shift d).rules = reading.rules.map (Rule.shift d) := by
  simp [rules, shift, LineReport.shift, List.flatMap_map, List.map_flatMap]

@[simp] theorem error?_shift (reading : Reading) :
    (reading.shift d).error? = reading.error?.map (ParseError.shift d) := by
  obtain ⟨reports⟩ := reading
  induction reports with
  | nil => rfl
  | cons report reports ih =>
    simp only [shift] at ih
    rw [shift, List.map_cons, error?_cons, error?_cons, ih]
    cases fault : report.outcome.fault? <;> simp [LineReport.shift, fault, ParseError.shift]

/-- Lines counted from further down. -/
theorem untilFault_reportsFrom_add (dialect : Dialect) (lines : List (Except String String)) :
    untilFault (reportsFrom dialect (1 + d) lines) =
      ((ofLines dialect lines).shift d).reports := by
  rw [reportsFrom_add, untilFault_map_shift]
  rfl

end Reading
end TuringScript
