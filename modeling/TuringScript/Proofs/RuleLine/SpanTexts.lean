import TuringScript.Proofs.RuleLine.Spans

/-!
# What spans hold

The spans of a rule line are the spans of its field texts, and the faults of finding them are the
same. Every span, and every class content, holds whole atoms of the line.
-/
namespace TuringScript.Indexed

open Grammar
open RuleLine (ClassText StateText FieldText FieldTexts)

variable {text : List Char} {position : Nat}

/-! ### Classes -/

/-- The text of a class, if an opening delimiter is where the span starts. -/
def classText? (text : List Char) (span : Span) : Option ClassText :=
  (text[span.start]?.bind Channel.ofOpening?).map fun channel =>
    ⟨channel, span.content.slice text⟩

/-- The span holds whole atoms, and whole atoms are before it. -/
def HoldsRun (text : List Char) (span : Span) : Prop :=
  Leads text 0 span.start ∧ Leads text span.start span.stop

/-- The span holds a class, with the atoms `content` between its delimiters. -/
structure HoldsClass (text : List Char) (span : Span) (channel : Channel) (content : List Atom) :
    Prop where
  reached : Leads text 0 span.start
  opens : text[span.start]? = some channel.opening
  spells : Spells text (span.start + 1) content (span.stop - 1)
  closes : text[span.stop - 1]? = some channel.closing

theorem readClass_eq (within : position ≤ text.length) (field : Field) (channel : Channel) :
    RuleLine.readClass field channel (text.drop position) =
      (readClass field channel text position).map fun stop =>
        (⟨channel, Span.slice text ⟨position, stop - 1⟩⟩, text.drop stop) := by
  obtain ⟨run, spells, scanned⟩ := scanRun_spec within
  rw [RuleLine.readClass, readClass, scanned]
  cases ahead : text.drop (scanRun text position) with
  | nil =>
    have ended : text[scanRun text position]? = none := by rw [← List.head?_drop, ahead]; rfl
    simp [ended, Except.map]
  | cons c later =>
    obtain ⟨found, rfl⟩ := cons_of_drop ahead
    by_cases closes : c = channel.closing
    · simp [found, closes, Except.map, spells.slice_eq]
    · simp [found, closes, Except.map]

theorem holdsClass_of_readClass {field : Field} {channel : Channel} {stop : Nat}
    (reached : Leads text 0 position) (opens : text[position]? = some channel.opening)
    (read : readClass field channel text (position + 1) = .ok stop) :
    ∃ content, HoldsClass text ⟨position, stop⟩ channel content := by
  have within := (List.getElem?_eq_some_iff.mp opens).1
  obtain ⟨content, spells, -⟩ := scanRun_spec within
  simp only [readClass] at read
  split at read
  next closes =>
    cases read
    exact ⟨content, reached, opens, spells, closes⟩
  next => cases read

theorem le_length_of_readClass {field : Field} {channel : Channel} {stop : Nat}
    (read : readClass field channel text position = .ok stop) : stop ≤ text.length := by
  simp only [readClass] at read
  split at read
  next closes =>
    cases read
    exact (List.getElem?_eq_some_iff.mp closes).1
  next => cases read

theorem classText?_of_opens {start : Nat} {channel : Channel}
    (opens : text[start]? = some channel.opening) (stop : Nat) :
    classText? text ⟨start, stop⟩ =
      some ⟨channel, Span.slice text ⟨start + 1, stop - 1⟩⟩ := by
  rw [classText?, opens, Option.bind_some, Channel.ofOpening?_opening, Option.map_some,
    Span.content]

/-! ### States -/

/-- What a state's spans are the spans of. -/
def stateText (text : List Char) (spans : StateSpans) : StateText where
  front := spans.front.slice text
  varying := spans.varying.bind fun (varying, back) =>
    (classText? text varying).map (·, back.slice text)

theorem readState_eq (within : position ≤ text.length) (field : Field) :
    RuleLine.readState field (text.drop position) =
      (readState field text position).map fun (state, next) =>
        (state.map (stateText text), text.drop next) := by
  obtain ⟨blanks, before, skipped⟩ := skipBlanks_spec within
  obtain ⟨run, spells, scanned⟩ := scanRun_spec before.within
  simp only [RuleLine.readState, readState, skipped, scanned]
  have front := spells.slice_eq
  have reach := spells.reach
  generalize skipBlanks text position = start at *
  generalize scanRun text start = stop at *
  cases ahead : text.drop stop with
  | nil => rw [if_pos (List.drop_eq_nil_iff.mp ahead)]; rfl
  | cons c later =>
    obtain ⟨found, later_eq⟩ := cons_of_drop ahead
    have inside := (List.getElem?_eq_some_iff.mp found).1
    rw [if_neg (Nat.not_le.mpr inside), found, Option.bind_some]
    cases opens : Channel.ofOpening? c with
    | none =>
      -- The run is empty exactly if it ends where it starts.
      have filled : start < stop ↔ ¬ (spelling run).isEmpty := by
        rw [← reach, List.isEmpty_iff, ← List.length_eq_zero_iff]
        omega
      by_cases empty : (spelling run).isEmpty
      · simp [opens, Except.map, ahead, filled, empty]
      · simp [opens, Except.map, ahead, filled, empty, stateText, front]
    | some channel =>
      have opening : text[stop]? = some channel.opening := by
        rw [found, ofOpening?_eq_some opens]
      simp only [opens, later_eq, readClass_eq inside]
      cases read : readClass field channel text (stop + 1) with
      | error fault => rfl
      | ok close =>
        obtain ⟨back, behind, scanned⟩ := scanRun_spec (le_length_of_readClass read)
        have varying := classText?_of_opens opening close
        simp [Except.map, bind, Except.bind, pure, Except.pure, stateText, front, scanned,
          behind.slice_eq, varying]

/-- The runs of a state hold runs, and its class is one. -/
structure HoldsState (text : List Char) (spans : StateSpans) : Prop where
  front : HoldsRun text spans.front
  varying : ∀ pair ∈ spans.varying,
    (∃ channel content, HoldsClass text pair.1 channel content) ∧ HoldsRun text pair.2

theorem HoldsClass.spells_span {span : Span} {channel : Channel} {content : List Atom}
    (holds : HoldsClass text span channel content) :
    Spells text span.start (.plain channel.opening :: (content ++ [.plain channel.closing]))
      span.stop := by
  have visible : channel.opening ≠ '\\' ∧ channel.closing ≠ '\\' := by cases channel <;> decide
  have stop_eq : span.stop - 1 + 1 = span.stop := by
    have := holds.spells.le
    omega
  have opening := spells_visible holds.opens visible.1
  have closing := spells_visible holds.closes visible.2
  rw [stop_eq] at closing
  exact opening.trans (holds.spells.trans closing)

theorem HoldsClass.holdsRun {span : Span} {channel : Channel} {content : List Atom}
    (holds : HoldsClass text span channel content) : HoldsRun text span :=
  ⟨holds.reached, _, holds.spells_span⟩

theorem leads_of_readState {field : Field} {state : Option StateSpans} {next : Nat}
    (reached : Leads text 0 position)
    (read : readState field text position = .ok (state, next)) :
    Leads text 0 next ∧ ∀ spans ∈ state, HoldsState text spans := by
  have before := leads_skipBlanks reached.within.2
  have run := leads_scanRun before.within.2
  have start := reached.trans before
  have stop := start.trans run
  simp only [readState] at read
  generalize skipBlanks text position = start' at *
  generalize scanRun text start' = stop' at *
  split at read
  · cases read
  · split at read
    · cases read
      refine ⟨stop, ?_⟩
      intro spans found
      split at found
      · cases found
        exact ⟨⟨start, run⟩, nofun⟩
      · cases found
    next channel opens =>
      obtain ⟨close, readClass, returned⟩ := bind_eq_ok_iff.mp read
      cases returned
      obtain ⟨c, found, opens⟩ := Option.bind_eq_some_iff.mp opens
      rw [ofOpening?_eq_some opens] at found
      obtain ⟨content, charClass⟩ := holdsClass_of_readClass stop found readClass
      have closed : Leads text 0 close := stop.trans ⟨_, charClass.spells_span⟩
      have back := leads_scanRun closed.within.2
      refine ⟨closed.trans back, ?_⟩
      rintro spans ⟨⟩
      refine ⟨⟨start, run⟩, ?_⟩
      rintro pair ⟨⟩
      exact ⟨⟨channel, content, charClass⟩, closed, back⟩

/-! ### Symbols and moves -/

/-- What the span of a symbol or a move is the span of. -/
def fieldText (text : List Char) (span : Span) : FieldText :=
  match classText? text span with
  | some classText => .bracketed classText
  | none => .bare (span.slice text)

theorem readField_eq (within : position ≤ text.length) (field : Field) :
    RuleLine.readField field (text.drop position) =
      (readField field text position).map fun (span, next) =>
        (span.map (fieldText text), text.drop next) := by
  obtain ⟨blanks, before, skipped⟩ := skipBlanks_spec within
  obtain ⟨run, spells, scanned⟩ := scanRun_spec before.within
  simp only [RuleLine.readField, readField, skipped, scanned, List.head?_drop, List.tail_drop]
  have bare := spells.slice_eq
  have reach := spells.reach
  generalize skipBlanks text position = start at *
  generalize scanRun text start = stop at *
  cases opens : text[start]?.bind Channel.ofOpening? with
  | none =>
    have filled : start ≠ stop ↔ ¬ (spelling run).isEmpty := by
      rw [← reach, List.isEmpty_iff, ← List.length_eq_zero_iff]
      omega
    by_cases empty : (spelling run).isEmpty
    · simp [Except.map, filled, empty]
    · simp [Except.map, filled, empty, fieldText, classText?, opens, bare]
  | some channel =>
    obtain ⟨c, found, opens⟩ := Option.bind_eq_some_iff.mp opens
    have inside := (List.getElem?_eq_some_iff.mp found).1
    simp only [readClass_eq inside]
    cases read : readClass field channel text (start + 1) with
    | error fault => rfl
    | ok close =>
      have opening : text[start]? = some channel.opening := by
        rw [found, ofOpening?_eq_some opens]
      have bracketed := classText?_of_opens opening close
      simp [Except.map, bind, Except.bind, pure, Except.pure, fieldText, bracketed]

/-- The span holds a class, or a run that does not begin like one. -/
def HoldsField (text : List Char) (span : Span) : Prop :=
  (∃ channel content, HoldsClass text span channel content) ∨
    classText? text span = none ∧ HoldsRun text span

theorem leads_of_readField {field : Field} {slot : Option Span} {next : Nat}
    (reached : Leads text 0 position)
    (read : readField field text position = .ok (slot, next)) :
    Leads text 0 next ∧ ∀ span ∈ slot, HoldsField text span := by
  have before := leads_skipBlanks reached.within.2
  have run := leads_scanRun before.within.2
  have start := reached.trans before
  simp only [readField] at read
  generalize skipBlanks text position = start' at *
  generalize scanRun text start' = stop' at *
  split at read
  next channel opens =>
    obtain ⟨stop, readClass, returned⟩ := bind_eq_ok_iff.mp read
    cases returned
    obtain ⟨c, found, opens⟩ := Option.bind_eq_some_iff.mp opens
    rw [ofOpening?_eq_some opens] at found
    obtain ⟨content, charClass⟩ := holdsClass_of_readClass start found readClass
    refine ⟨start.trans ⟨_, charClass.spells_span⟩, ?_⟩
    rintro span ⟨⟩
    exact .inl ⟨channel, content, charClass⟩
  next bare =>
    cases read
    refine ⟨start.trans run, ?_⟩
    intro span found
    split at found
    · cases found
      exact .inr ⟨by rw [classText?, bare]; rfl, start, run⟩
    · cases found

/-! ### Between the fields -/

theorem expectComma_eq (within : position ≤ text.length) :
    RuleLine.expectComma (text.drop position) =
      (expectComma text position).map fun comma => text.drop (comma + 1) := by
  obtain ⟨blanks, before, skipped⟩ := skipBlanks_spec within
  simp only [RuleLine.expectComma, expectComma, skipped]
  split
  next later ahead =>
    obtain ⟨found, rfl⟩ := cons_of_drop ahead
    rw [if_pos found]
    rfl
  next other =>
    rw [if_neg fun found => other _ (drop_of_getElem? found)]
    rfl

theorem leads_of_expectComma {comma : Nat} (reached : Leads text 0 position)
    (expected : expectComma text position = .ok comma) :
    Leads text 0 comma ∧ text[comma]? = some ',' := by
  simp only [expectComma] at expected
  split at expected
  next found =>
    cases expected
    exact ⟨reached.trans (leads_skipBlanks reached.within.2), found⟩
  next => cases expected

theorem leads_behind_comma {comma : Nat} (found : Leads text 0 comma ∧ text[comma]? = some ',') :
    Leads text 0 (comma + 1) :=
  found.1.trans (.plain found.2 (by decide))

theorem openRule_eq (text : List Char) :
    RuleLine.openRule text = ((openRule text).1, text.drop (openRule text).2) := by
  obtain ⟨blanks, before, skipped⟩ := skipBlanks_spec text.length.zero_le
  simp only [RuleLine.openRule, openRule]
  rw [List.drop_zero] at skipped
  rw [skipped]
  split
  next later ahead =>
    obtain ⟨found, rfl⟩ := cons_of_drop ahead
    rw [if_pos found]
  next other =>
    rw [if_neg fun found => other _ (drop_of_getElem? found)]

theorem leads_openRule (text : List Char) : Leads text 0 (openRule text).2 := by
  have blanks := leads_skipBlanks text.length.zero_le
  unfold openRule
  dsimp only
  split
  next found => exact blanks.trans (.plain found (by decide))
  next => exact blanks

theorem closeRule_eq (within : position ≤ text.length) (parenthesized : Bool) :
    RuleLine.closeRule parenthesized (text.drop position) =
      (closeRule parenthesized text position).map text.drop := by
  obtain ⟨blanks, before, skipped⟩ := skipBlanks_spec within
  simp only [RuleLine.closeRule, closeRule, skipped]
  cases parenthesized with
  | false => rfl
  | true =>
    rw [if_pos rfl, if_pos rfl]
    split
    next later ahead =>
      obtain ⟨found, rfl⟩ := cons_of_drop ahead
      rw [if_pos found]
      rfl
    next other =>
      rw [if_neg fun found => other _ (drop_of_getElem? found)]
      rfl

theorem leads_of_closeRule {parenthesized : Bool} {stop : Nat} (reached : Leads text 0 position)
    (closed : closeRule parenthesized text position = .ok stop) : Leads text 0 stop := by
  have blanks := reached.trans (leads_skipBlanks reached.within.2)
  simp only [closeRule] at closed
  split at closed
  · split at closed
    next found =>
      cases closed
      exact blanks.trans (.plain found (by decide))
    next => cases closed
  · cases closed
    exact blanks

theorem endRule_eq (within : position ≤ text.length) (marker : Char) :
    RuleLine.endRule marker (text.drop position) = endRule marker text position := by
  obtain ⟨blanks, before, skipped⟩ := skipBlanks_spec within
  rw [RuleLine.endRule, endRule, skipped]
  split
  next ahead =>
    have ended : text[skipBlanks text position]? = none := by rw [← List.head?_drop, ahead]; rfl
    rw [ended]
    rfl
  next c later ahead =>
    rw [(cons_of_drop ahead).1]
    by_cases comment : c = marker <;> simp [comment]

/-! ### Lines -/

def fieldTexts (text : List Char) (spans : LineSpans) : FieldTexts where
  startState := spans.startState.map (stateText text)
  startSymbol := spans.startSymbol.map (fieldText text)
  destState := spans.destState.map (stateText text)
  destSymbol := spans.destSymbol.map (fieldText text)
  move := spans.move.map (fieldText text)

/-- The spans of the fields hold what they are meant to, and the commas are characters between whole
atoms. -/
structure HoldsLine (text : List Char) (spans : LineSpans) : Prop where
  states : ∀ state ∈ spans.states, HoldsState text state
  slots : ∀ span ∈ spans.slots, HoldsField text span
  commas : ∀ comma ∈ spans.commas, Leads text 0 comma ∧ text[comma]? = some ','

theorem holdsLine_of_readSpans {marker : Char} {spans : LineSpans}
    (read : readSpans marker text = .ok spans) : HoldsLine text spans := by
  simp only [readSpans, bind_eq_ok_iff] at read
  obtain ⟨⟨a, restA⟩, readA, commaA, first, ⟨b, restB⟩, readB, commaB, second, ⟨c, restC⟩, readC,
    commaC, third, ⟨d, restD⟩, readD, commaD, fourth, ⟨e, restE⟩, readE, stop, closed, _, ends,
    returned⟩ := read
  cases returned
  obtain ⟨leadsA, holdsA⟩ := leads_of_readState (leads_openRule text) readA
  have atA := leads_of_expectComma leadsA first
  obtain ⟨leadsB, holdsB⟩ := leads_of_readField (leads_behind_comma atA) readB
  have atB := leads_of_expectComma leadsB second
  obtain ⟨leadsC, holdsC⟩ := leads_of_readState (leads_behind_comma atB) readC
  have atC := leads_of_expectComma leadsC third
  obtain ⟨leadsD, holdsD⟩ := leads_of_readField (leads_behind_comma atC) readD
  have atD := leads_of_expectComma leadsD fourth
  obtain ⟨-, holdsE⟩ := leads_of_readField (leads_behind_comma atD) readE
  refine ⟨?_, ?_, by simpa using ⟨atA, atB, atC, atD⟩⟩
  · simpa [LineSpans.states, or_imp, forall_and] using ⟨holdsA, holdsC⟩
  · simpa [LineSpans.slots, or_imp, forall_and, and_assoc] using ⟨holdsB, holdsD, holdsE⟩

theorem HoldsState.holdsRun {state : StateSpans} (holds : HoldsState text state) :
    (∀ span ∈ state.runs, HoldsRun text span) ∧
      ∀ span ∈ state.classes, ∃ channel content, HoldsClass text span channel content := by
  obtain ⟨front, varying⟩ := state
  cases varying with
  | none => exact ⟨by simpa [StateSpans.runs] using holds.front, by simp [StateSpans.classes]⟩
  | some pair =>
    obtain ⟨charClass, back⟩ := holds.varying pair rfl
    exact ⟨by simpa [StateSpans.runs] using ⟨holds.front, back⟩,
      by simpa [StateSpans.classes] using charClass⟩

theorem HoldsField.holdsRun {span : Span} (holds : HoldsField text span) : HoldsRun text span := by
  rcases holds with ⟨channel, content, charClass⟩ | ⟨-, run⟩
  · exact charClass.holdsRun
  · exact run

theorem HoldsLine.holdsRun {spans : LineSpans} (holds : HoldsLine text spans) :
    ∀ span ∈ spans.all, HoldsRun text span := by
  intro span member
  simp only [LineSpans.all, List.mem_append, List.mem_flatMap] at member
  rcases member with ⟨state, listed, run | charClass⟩ | slot
  · exact (holds.states state listed).holdsRun.1 span run
  · obtain ⟨channel, content, charClass⟩ := (holds.states state listed).holdsRun.2 span charClass
    exact charClass.holdsRun
  · exact (holds.slots span slot).holdsRun

theorem bind_map_eq {ε α β γ δ : Type} {first : Except ε α} {f : α → β} {next : β → Except ε δ}
    {other : α → Except ε γ} {g : γ → δ}
    (each : ∀ value, first = .ok value → next (f value) = (other value).map g) :
    first.map f >>= next = (first >>= other).map g := by
  cases first with
  | error e => rfl
  | ok value => exact each value rfl

/-- Cutting by positions finds the spans of the field texts, or the same fault. -/
theorem readFields_eq_map (marker : Char) (text : List Char) :
    RuleLine.readFields marker text = (readSpans marker text).map (fieldTexts text) := by
  rw [readFields_eq, readSpans]
  simp only [openRule_eq]
  have start := leads_openRule text
  -- Scanner by scanner, each from where the one before it ends.
  rw [readState_eq start.within.2]
  refine bind_map_eq fun ⟨a, restA⟩ readA => ?_
  have leadsA := (leads_of_readState start readA).1
  simp only [expectComma_eq leadsA.within.2]
  refine bind_map_eq fun commaA first => ?_
  have atA := leads_behind_comma (leads_of_expectComma leadsA first)
  simp only [readField_eq atA.within.2]
  refine bind_map_eq fun ⟨b, restB⟩ readB => ?_
  have leadsB := (leads_of_readField atA readB).1
  simp only [expectComma_eq leadsB.within.2]
  refine bind_map_eq fun commaB second => ?_
  have atB := leads_behind_comma (leads_of_expectComma leadsB second)
  simp only [readState_eq atB.within.2]
  refine bind_map_eq fun ⟨c, restC⟩ readC => ?_
  have leadsC := (leads_of_readState atB readC).1
  simp only [expectComma_eq leadsC.within.2]
  refine bind_map_eq fun commaC third => ?_
  have atC := leads_behind_comma (leads_of_expectComma leadsC third)
  simp only [readField_eq atC.within.2]
  refine bind_map_eq fun ⟨d, restD⟩ readD => ?_
  have leadsD := (leads_of_readField atC readD).1
  simp only [expectComma_eq leadsD.within.2]
  refine bind_map_eq fun commaD fourth => ?_
  have atD := leads_behind_comma (leads_of_expectComma leadsD fourth)
  simp only [readField_eq atD.within.2]
  refine bind_map_eq fun ⟨e, restE⟩ readE => ?_
  have leadsE := (leads_of_readField atD readE).1
  simp only [closeRule_eq leadsE.within.2]
  refine bind_map_eq fun stop closed => ?_
  have leadsStop := leads_of_closeRule leadsE closed
  rw [endRule_eq leadsStop.within.2]
  cases endRule marker text stop <;> rfl

theorem exists_of_readFields {marker : Char} {fields : FieldTexts}
    (read : RuleLine.readFields marker text = .ok fields) :
    ∃ spans, readSpans marker text = .ok spans ∧ fieldTexts text spans = fields := by
  rw [readFields_eq_map] at read
  exact map_eq_ok_iff.mp read

end TuringScript.Indexed
