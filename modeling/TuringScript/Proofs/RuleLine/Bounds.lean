import TuringScript.Proofs.CharClass.Bounds
import TuringScript.Proofs.RuleLine.SpanTexts

/-!
# Bounds of a rule line

Whatever a line says, its spans lie in it, and reading it by positions never leaves its text: every
slice that is taken and every index that is used is inside. What is read is the outcome of the line.
-/
namespace TuringScript.Indexed

open RuleLine (unescape StateText FieldText)

/-! ### Templates -/

/-- What a state means; nothing if a slice or an index is outside the text. -/
def stateTemplate? (text : List Char) (spans : StateSpans) :
    Option (Option (StateField CharClass)) := do
  let front ← slice? text spans.front
  match spans.varying with
  | none => return some (.literal (String.ofList (unescape front)))
  | some (varying, back) =>
    let charClass ← charClass? text varying
    if charClass.isEmpty then return none
    else
      let back ← slice? text back
      return some (.varying (String.ofList (unescape front)) charClass
        (String.ofList (unescape back)))

def fieldTemplate? (text : List Char) (span : Span) : Option (Option CharClass) := do
  let charClass ← charClass? text span
  if charClass.isEmpty || (charClass.channel.isNone && charClass.size != 1) then return none
  else return some charClass

def template? (text : List Char) (spans : LineSpans) (line : Nat) :
    ExceptT Fault Option RuleTemplate := do
  let startState ← Field.startState.present spans.startState
  let startSymbol ← Field.startSymbol.present spans.startSymbol
  let destState ← Field.destState.present spans.destState
  let destSymbol ← Field.destSymbol.present spans.destSymbol
  let move ← Field.move.present spans.move
  let startState ← Field.startState.wellFormed (← stateTemplate? text startState)
  let startSymbol ← Field.startSymbol.wellFormed (← fieldTemplate? text startSymbol)
  let destState ← Field.destState.wellFormed (← stateTemplate? text destState)
  let destSymbol ← Field.destSymbol.wellFormed (← fieldTemplate? text destSymbol)
  let move ← Field.move.wellFormed (← fieldTemplate? text move)
  RuleTemplate.ofFields ⟨startState, startSymbol, destState, destSymbol, move⟩ line

/-- The outcome of a line that is read by positions. -/
def readLine? (dialect : Dialect) (number : Nat) (line : String) : Option LineOutcome :=
  let text := dialect.fold line
  if dialect.skips text then some .skipped
  else
    match readSpans dialect.commentMarker text with
    | .error fault => some (.rejected fault)
    | .ok spans => do
      match ← (template? text spans number).run with
      | .ok template => return template.outcome
      | .error fault => return .rejected fault

variable {text : List Char}

theorem slice?_of_leads {span : Span} (leads : Leads text span.start span.stop) :
    slice? text span = some (span.slice text) :=
  if_pos leads.within

theorem charClass?_of_stop {span : Span} (stops : span.stop ≤ text.length) :
    charClass? text span = some (fieldText text span).charClass := by
  rw [charClass?_eq_some span stops]
  unfold CharClass.ofSpan fieldText classText?
  cases text[span.start]?.bind Channel.ofOpening? <;> rfl

theorem stateTemplate?_eq_some {spans : StateSpans} (holds : HoldsState text spans) :
    stateTemplate? text spans = some (stateText text spans).template? := by
  obtain ⟨front, varying⟩ := spans
  obtain ⟨⟨-, leads⟩, held⟩ := holds
  rw [stateTemplate?, slice?_of_leads leads]
  cases varying with
  | none => rfl
  | some pair =>
    obtain ⟨varying, back⟩ := pair
    obtain ⟨⟨channel, content, charClass⟩, -, back_leads⟩ := held _ rfl
    have bracketed := classText?_of_opens charClass.opens varying.stop
    have read : charClass? text varying = some (fieldText text varying).charClass :=
      charClass?_of_stop charClass.spells_span.within
    have known : (stateText text ⟨front, some (varying, back)⟩).varying =
        some (⟨channel, Span.slice text ⟨varying.start + 1, varying.stop - 1⟩⟩,
          back.slice text) := by
      simp only [stateText, Option.bind_some, bracketed, Option.map_some]
    rw [fieldText, bracketed] at read
    simp only [StateText.template?, known, read, slice?_of_leads back_leads, FieldText.charClass,
      Option.bind_eq_bind, Option.bind_some]
    split <;> rfl

theorem fieldTemplate?_eq_some {span : Span} (holds : HoldsField text span) :
    fieldTemplate? text span = some (fieldText text span).template? := by
  rw [fieldTemplate?, charClass?_of_stop holds.holdsRun.2.within.2, FieldText.template?]
  simp only [Option.bind_eq_bind, Option.bind_some]
  split <;> rfl

/-! ### Lines -/

section Steps

variable {α β γ : Type} {next : α → ExceptT Fault Option γ} (field : Field)

theorem run_bind_present {slot : Option α} {text : α → β} {other : β → Except Fault γ}
    (each : ∀ value ∈ slot, (next value).run = some (other (text value))) :
    (do next (← field.present slot) : ExceptT Fault Option γ).run =
      some (field.present (slot.map text) >>= other) := by
  cases slot with
  | none => rfl
  | some value => exact each value rfl

theorem run_bind_wellFormed {checked : Option (Option α)} {reading : Option α}
    {other : α → Except Fault γ} (known : checked = some reading)
    (each : ∀ value, (next value).run = some (other value)) :
    (do next (← field.wellFormed (← checked)) : ExceptT Fault Option γ).run =
      some (field.wellFormed reading >>= other) := by
  subst known
  cases reading with
  | none => rfl
  | some value => exact each value

end Steps

theorem template?_eq_some {spans : LineSpans} (holds : HoldsLine text spans) (line : Nat) :
    (template? text spans line).run = some ((fieldTexts text spans).template line) := by
  rw [template?, RuleLine.FieldTexts.template]
  -- First all fields have to be there, and only then is one of them malformed.
  refine run_bind_present _ fun a memberA => ?_
  refine run_bind_present _ fun b memberB => ?_
  refine run_bind_present _ fun c memberC => ?_
  refine run_bind_present _ fun d memberD => ?_
  refine run_bind_present _ fun e memberE => ?_
  have readA := stateTemplate?_eq_some (holds.states a (by simp_all [LineSpans.states]))
  have readB := fieldTemplate?_eq_some (holds.slots b (by simp_all [LineSpans.slots]))
  have readC := stateTemplate?_eq_some (holds.states c (by simp_all [LineSpans.states]))
  have readD := fieldTemplate?_eq_some (holds.slots d (by simp_all [LineSpans.slots]))
  have readE := fieldTemplate?_eq_some (holds.slots e (by simp_all [LineSpans.slots]))
  refine run_bind_wellFormed _ readA fun _ => ?_
  refine run_bind_wellFormed _ readB fun _ => ?_
  refine run_bind_wellFormed _ readC fun _ => ?_
  refine run_bind_wellFormed _ readD fun _ => ?_
  refine run_bind_wellFormed _ readE fun _ => ?_
  rfl

theorem readLine?_eq_some (dialect : Dialect) (number : Nat) (line : String) :
    readLine? dialect number line = some (dialect.readLine number line) := by
  unfold readLine? Dialect.readLine
  simp only [readFields_eq_map]
  split
  · rfl
  · cases read : readSpans dialect.commentMarker (dialect.fold line) with
    | error fault => rfl
    | ok spans =>
      have checked := template?_eq_some (holdsLine_of_readSpans read) number
      simp only [checked, Except.map, bind, Except.bind, Option.bind_some]
      cases (fieldTexts (dialect.fold line) spans).template number <;> rfl

/-! ### Everything that is read -/

/-- For any dialect, number and line: every span that is cut out of the line lies in it, and reading
it by positions leaves its text nowhere and gives the outcome of the line. Nor is the text left where
a class is read from a span that does not end behind the text, wherever it starts. -/
theorem readLine?_within_bounds (dialect : Dialect) (number : Nat) (line : String) :
    (∀ spans, readSpans dialect.commentMarker (dialect.fold line) = .ok spans →
      ∀ span ∈ spans.all, span.Within (dialect.fold line)) ∧
    readLine? dialect number line = some (dialect.readLine number line) ∧
    ∀ (text : List Char) (span : Span), span.stop ≤ text.length →
      charClass? text span = some (CharClass.ofSpan text span.start span.stop) := by
  refine ⟨?_, readLine?_eq_some dialect number line, fun text span => charClass?_eq_some span⟩
  intro spans read span member
  exact ((holdsLine_of_readSpans read).holdsRun span member).2.within

/-- Escaped delimiters, a range with an escaped upper bound, an escape that ends the line, and a
class that is read from a span that ends before it starts. -/
theorem readLine?_within_bounds_escapes :
    let line := "q\\,[0..\\]]\\[,[^\\]],b,[\\^],>\\"
    let text := Dialect.standard.fold line
    ∃ spans, readSpans '#' text = .ok spans ∧
      spans.states.flatMap StateSpans.classes = [⟨3, 10⟩] ∧
      spans.slots = [⟨13, 18⟩, ⟨21, 25⟩, ⟨26, 28⟩] ∧
      (∀ span ∈ spans.all, span.Within text) ∧
      readLine? Dialect.standard 1 line = some (Dialect.standard.readLine 1 line) ∧
      8 ≤ text.length ∧ charClass? text ⟨21, 8⟩ = some (CharClass.ofSpan text 21 8) := by
  intro line text
  obtain ⟨bounds, outcome, classes⟩ := readLine?_within_bounds Dialect.standard 1 line
  have read : readSpans '#' text = .ok
      ⟨some ⟨⟨0, 3⟩, some (⟨3, 10⟩, ⟨10, 12⟩)⟩, some ⟨13, 18⟩, some ⟨⟨19, 20⟩, none⟩, some ⟨21, 25⟩,
        some ⟨26, 28⟩, [12, 18, 20, 25]⟩ := by
    decide +kernel
  have short : 8 ≤ text.length := by decide +kernel
  exact ⟨_, read, rfl, rfl, bounds _ read, outcome, short, classes text ⟨21, 8⟩ short⟩

end TuringScript.Indexed
