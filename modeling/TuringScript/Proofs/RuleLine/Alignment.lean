import TuringScript.Proofs.CharClass.Bounds
import TuringScript.Proofs.RuleLine.SpanTexts

/-!
# Scanner and decoders step over the same atoms

What the scanner cuts out of a line begins and ends between two atoms of it, and so does every turn
of the loop over the content of a class. No character that an escape protects is taken for a
delimiter, a comma, an escape or a part of a range operator; and where only escapes are decoded, one
character is decoded for each atom.
-/
namespace TuringScript.Indexed

open Grammar
open RuleLine (unescape)

/-! ### The spans of a line -/

namespace LineSpans

/-- The spans of the text before and behind a class, and of bare tokens. -/
def literals (text : List Char) (spans : LineSpans) : List Span :=
  spans.states.flatMap StateSpans.runs ++
    spans.slots.filter fun span => (classText? text span).isNone

/-- The spans of classes, with their delimiters. -/
def classes (text : List Char) (spans : LineSpans) : List Span :=
  spans.states.flatMap StateSpans.classes ++
    spans.slots.filter fun span => (classText? text span).isSome

end LineSpans

variable {text : List Char} {span : Span} {position : Nat}

theorem HoldsLine.literal {spans : LineSpans} (holds : HoldsLine text spans)
    (listed : span ∈ spans.literals text) : HoldsRun text span := by
  simp only [LineSpans.literals, List.mem_append, List.mem_flatMap, List.mem_filter] at listed
  rcases listed with ⟨state, among, run⟩ | ⟨slot, -⟩
  · exact (holds.states state among).holdsRun.1 span run
  · exact (holds.slots span slot).holdsRun

theorem HoldsLine.charClass {spans : LineSpans} (holds : HoldsLine text spans)
    (listed : span ∈ spans.classes text) :
    ∃ channel content, HoldsClass text span channel content := by
  simp only [LineSpans.classes, List.mem_append, List.mem_flatMap, List.mem_filter] at listed
  rcases listed with ⟨state, among, charClass⟩ | ⟨slot, opens⟩
  · exact (holds.states state among).holdsRun.2 span charClass
  · rcases holds.slots span slot with charClass | ⟨bare, -⟩
    · exact charClass
    · rw [bare] at opens
      cases opens

/-! ### Runs -/

theorem Leads.between (reached : Leads text 0 position) : Between text position := by
  obtain ⟨before, spells⟩ := reached
  exact spells.between

theorem HoldsRun.between (holds : HoldsRun text span) :
    Between text span.start ∧ Between text span.stop :=
  ⟨holds.1.between, (holds.1.trans holds.2).between⟩

/-- The atoms of the text of a span are the atoms that the whole text has there. -/
theorem HoldsRun.holds (holds : HoldsRun text span) :
    span.Holds text (atomsOf (span.slice text)) := by
  obtain ⟨⟨before, reached⟩, run, spells⟩ := holds
  have slice : atomsOf (span.slice text) = run := spells.atomsOf_slice
  rw [slice]
  exact reached.holds spells

/-! ### Classes -/

namespace HoldsClass

variable {channel : Channel} {content : List Atom}

theorem reaches_content (holds : HoldsClass text span channel content) :
    Leads text 0 span.content.start :=
  holds.reached.trans (.plain holds.opens (by cases channel <;> decide))

theorem holdsRun_content (holds : HoldsClass text span channel content) :
    HoldsRun text span.content :=
  ⟨holds.reaches_content, content, holds.spells⟩

theorem atomsOf_content (holds : HoldsClass text span channel content) :
    atomsOf (span.content.slice text) = content :=
  holds.spells.atomsOf_slice

/-- The content does not end in an escape that protects nothing. -/
theorem paired (holds : HoldsClass text span channel content) :
    .plain '\\' ∉ atomsOf (span.content.slice text) := by
  rw [holds.atomsOf_content]
  exact holds.spells.paired (List.getElem?_eq_some_iff.mp holds.closes).1

/-- What is between two atoms of the content is between two atoms of the line. -/
theorem between_of_spells (holds : HoldsClass text span channel content) {run : List Atom}
    (spells : Spells (text.take span.content.stop) span.content.start run position) :
    Between (span.content.slice text) (position - span.content.start) ∧ Between text position := by
  obtain ⟨before, reached⟩ := holds.reaches_content
  -- The content of the line is the one that the loop goes over, so its atoms are split in one place.
  have split : atomsOf (span.content.slice text) = run ++ _ := spells.split
  have around : atomsOf text = before ++ _ ++ _ := (reached.trans holds.spells).split
  rw [← holds.atomsOf_content, split] at around
  have start_eq := reached.reach
  have position_eq := spells.reach
  constructor
  · exact ⟨run, _, split, by omega⟩
  · refine ⟨before ++ run, _, by simpa only [List.append_assoc] using around, ?_⟩
    rw [spelling_append, List.length_append]
    omega

end HoldsClass

/-! ### The loop over a content -/

theorem caret_of_isNegated? {content : Span} (negated : isNegated? text content = some true) :
    content.start < content.stop ∧ text[content.start]? = some '^' := by
  rw [isNegated?] at negated
  split at negated
  next inside =>
    obtain ⟨c, found, caret⟩ := Option.bind_eq_some_iff.mp negated
    exact ⟨inside, by rw [found, eq_of_beq (Option.some.inj caret)]⟩
  next => cases negated

/-- Before the part of a content that lists items there is at most the negation marker. -/
theorem exists_spells_listing {content : Span} (stops : content.stop ≤ text.length)
    (ordered : content.start ≤ content.stop) {negated : Bool}
    (marked : isNegated? text content = some negated) :
    ∃ run, Spells (text.take content.stop) content.start run (listing negated content).start := by
  cases negated with
  | false => exact ⟨[], .refl (by rwa [List.length_take_of_le stops])⟩
  | true =>
    obtain ⟨inside, caret⟩ := caret_of_isNegated? marked
    have found : (text.take content.stop)[content.start]? = some '^' := by
      rw [List.getElem?_take, if_pos inside, caret]
    exact ⟨_, spells_visible found (by decide)⟩

/-- Up to each position of the loop there are whole atoms of the content, with its marker. -/
theorem exists_spells_of_visits {content : Span} (stops : content.stop ≤ text.length)
    (ordered : content.start ≤ content.stop) {negated : Bool}
    (marked : isNegated? text content = some negated)
    (visited : Visits text (listing negated content) position) :
    ∃ run, Spells (text.take content.stop) content.start run position := by
  -- The loop begins behind the marker, if there is one.
  obtain ⟨marker, marks⟩ := exists_spells_listing stops ordered marked
  have stop_eq := stop_listing negated content
  have listed : (listing negated content).stop ≤ text.length := by rwa [stop_eq]
  have begun : (listing negated content).start ≤ (listing negated content).stop := by
    rw [stop_eq, ← List.length_take_of_le stops]
    exact marks.within
  obtain ⟨run, reached⟩ := visited.exists_spells listed begun
  rw [stop_eq] at reached
  exact ⟨_, marks.trans reached⟩

/-- Either dot of an operator is an atom. -/
theorem spells_of_ranges {content : Span} (ranges : Ranges text content position) :
    Spells (text.take content.stop) position [.plain '.'] (position + 1) ∧
      Spells (text.take content.stop) (position + 1) [.plain '.'] (position + 2) := by
  obtain ⟨low, high, later, -, ahead⟩ := ranges
  obtain ⟨first, ahead⟩ := cons_of_drop ahead
  obtain ⟨second, -⟩ := cons_of_drop ahead.symm
  exact ⟨spells_visible first (by decide), spells_visible second (by decide)⟩

/-- The loop over a content comes round between two atoms of it. Neither there nor, if there is an
operator, at its second dot or at its upper bound is a character that an escape protects; and what
is left there is decoded to the end of what the content is decoded to. -/
structure ComesRound (text : List Char) (content : Span) (negated : Bool) (position : Nat) :
    Prop where
  inside : content.start ≤ position ∧ position ≤ content.stop
  between : Between (content.slice text) (position - content.start)
  unprotected : ¬ Protected text position
  operator : ∀ c ∈ text[position]?,
    isOperator? text (listing negated content) position c = some true →
      ¬ Protected text (position + 1) ∧ ¬ Protected text (position + 2)
  decoded : ∃ items, CharClass.contentItems none ((listing negated content).slice text) =
    items ++ CharClass.contentItems (previous? text (listing negated content) position)
      (rest text (listing negated content) position)

theorem HoldsClass.comesRound {channel : Channel} {content : List Atom}
    (holds : HoldsClass text span channel content) {negated : Bool}
    (marked : isNegated? text span.content = some negated)
    (visited : Visits text (listing negated span.content) position) :
    ComesRound text span.content negated position := by
  obtain ⟨ordered, stops⟩ := holds.holdsRun_content.2.within
  obtain ⟨run, spells⟩ := exists_spells_of_visits stops ordered marked visited
  obtain ⟨inContent, inLine⟩ := holds.between_of_spells spells
  have ended := spells.within
  rw [List.length_take_of_le stops] at ended
  have listed : (listing negated span.content).stop ≤ text.length := by rwa [stop_listing]
  refine ⟨⟨spells.le, ended⟩, inContent, not_protected_of_between inLine, ?_,
    visited.exists_items listed⟩
  intro c _ operator
  obtain ⟨first, second⟩ := spells_of_ranges (ranges_of_isOperator? listed visited.le operator)
  rw [stop_listing] at first second
  -- Each dot is a whole atom, so behind either of them is a place between two atoms as well.
  have behind := spells.trans first
  exact ⟨not_protected_of_between (holds.between_of_spells behind).2,
    not_protected_of_between (holds.between_of_spells (behind.trans second)).2⟩

/-- A class whose delimiters are characters of their own, and whose content is read atom by atom. -/
structure KeepsAtoms (text : List Char) (span : Span) : Prop where
  delimited : ∃ channel : Channel, text[span.start]? = some channel.opening ∧
    text[span.stop - 1]? = some channel.closing
  unprotected : ¬ Protected text span.start ∧ ¬ Protected text (span.stop - 1)
  between : Between text span.content.start ∧ Between text span.content.stop
  paired : .plain '\\' ∉ atomsOf (span.content.slice text)
  read : charClass? text span = some (CharClass.ofSpan text span.start span.stop)
  turns : ∃ negated, isNegated? text span.content = some negated ∧
    ∀ position, Visits text (listing negated span.content) position →
      ComesRound text span.content negated position

theorem HoldsClass.keepsAtoms {channel : Channel} {content : List Atom}
    (holds : HoldsClass text span channel content) : KeepsAtoms text span where
  delimited := ⟨channel, holds.opens, holds.closes⟩
  unprotected := ⟨not_protected_of_between holds.reached.between,
    not_protected_of_between holds.holdsRun_content.between.2⟩
  between := holds.holdsRun_content.between
  paired := holds.paired
  read := charClass?_eq_some span holds.holdsRun.2.within.2
  turns := by
    have marked := isNegated?_eq_some holds.holdsRun_content.2.within.2
    exact ⟨_, marked, fun position visited => holds.comesRound marked visited⟩

/-! ### Everything that is cut out -/

/-- For any text that is read: every span that is cut out of it begins and ends between two atoms of
the text, and none of the commas between the fields is protected. Where bare text is decoded, either
decoder yields one character for each atom that the span holds, and both yield the same; and a class
keeps the atoms of the text. -/
theorem readFields_keeps_atoms {marker : Char} {fields : RuleLine.FieldTexts}
    (read : RuleLine.readFields marker text = .ok fields) :
    ∃ spans, readSpans marker text = .ok spans ∧ fieldTexts text spans = fields ∧
      (∀ span ∈ spans.all, Between text span.start ∧ Between text span.stop) ∧
      (∀ comma ∈ spans.commas, text[comma]? = some ',' ∧ ¬ Protected text comma) ∧
      (∀ span ∈ spans.literals text, span.Holds text (atomsOf (span.slice text)) ∧
        unescape (span.slice text) = (atomsOf (span.slice text)).map Atom.char ∧
        tokenItems? text span span.start = some (CharClass.tokenItems (span.slice text)) ∧
        (CharClass.tokenItems (span.slice text)).map Alternative.char =
          unescape (span.slice text)) ∧
      ∀ span ∈ spans.classes text, KeepsAtoms text span := by
  obtain ⟨spans, cut, rfl⟩ := exists_of_readFields read
  have holds := holdsLine_of_readSpans cut
  refine ⟨spans, cut, rfl, ?_, ?_, ?_, ?_⟩
  · intro span member
    exact (holds.holdsRun span member).between
  · intro comma member
    obtain ⟨reached, found⟩ := holds.commas comma member
    exact ⟨found, not_protected_of_between reached.between⟩
  · intro span member
    have run := holds.literal member
    exact ⟨run.holds, unescape_eq_map _, tokenItems?_eq_some run.2.within.2,
      map_char_tokenItems _⟩
  · intro span member
    obtain ⟨channel, content, charClass⟩ := holds.charClass member
    exact charClass.keepsAtoms

/-- A negated class with an escaped closing delimiter before an operator and an escaped upper bound
behind it, and an escape that ends the line. -/
theorem readFields_keeps_atoms_escapedBounds :
    let text := "q\\,[^\\]..\\^]\\[,[0..\\]],b,-,>\\".toList
    ∃ fields, RuleLine.readFields '#' text = .ok fields ∧
      ∃ spans, readSpans '#' text = .ok spans ∧ fieldTexts text spans = fields ∧
        spans.commas = [14, 22, 24, 26] ∧
        spans.literals text = [⟨0, 3⟩, ⟨12, 14⟩, ⟨23, 24⟩, ⟨25, 26⟩, ⟨27, 29⟩] ∧
        (∀ span ∈ spans.literals text, span.Holds text (atomsOf (span.slice text))) ∧
        spans.classes text = [⟨3, 12⟩, ⟨15, 22⟩] ∧
        (∀ span ∈ spans.classes text, KeepsAtoms text span) ∧
        Visits text ⟨5, 11⟩ 7 ∧ ComesRound text ⟨4, 11⟩ true 7 ∧
        isOperator? text ⟨5, 11⟩ 7 '.' = some true ∧ ¬ Protected text 8 ∧ ¬ Protected text 9 := by
  intro text
  let spans : LineSpans := ⟨some ⟨⟨0, 3⟩, some (⟨3, 12⟩, ⟨12, 14⟩)⟩, some ⟨15, 22⟩,
    some ⟨⟨23, 24⟩, none⟩, some ⟨25, 26⟩, some ⟨27, 29⟩, [14, 22, 24, 26]⟩
  have cut : readSpans '#' text = .ok spans := by decide +kernel
  have read : RuleLine.readFields '#' text = .ok (fieldTexts text spans) := by
    rw [readFields_eq_map, cut]
    rfl
  have turn : turn? text ⟨5, 11⟩ 5 = some ([⟨']', true⟩], 7) := by decide +kernel
  have visited : Visits text ⟨5, 11⟩ 7 := .next .first (by decide) turn
  have operator : isOperator? text ⟨5, 11⟩ 7 '.' = some true := by decide +kernel
  obtain ⟨spans', same, -, -, -, literals, classes⟩ := readFields_keeps_atoms read
  cases Except.ok.inj (cut.symm.trans same)
  have listed : spans.classes text = [⟨3, 12⟩, ⟨15, 22⟩] := by decide +kernel
  obtain ⟨negated, marked, turns⟩ := (classes ⟨3, 12⟩ (by rw [listed]; decide)).turns
  have known : isNegated? text ⟨4, 11⟩ = some true := by decide +kernel
  cases Option.some.inj (known.symm.trans marked)
  have round := turns 7 visited
  exact ⟨_, read, spans, cut, rfl, rfl, by decide +kernel,
    fun span member => (literals span member).1, listed, classes, visited, round, operator,
    round.operator '.' rfl operator⟩

end TuringScript.Indexed
