import Mathlib.Data.List.GetD
import TuringScript.Proofs.RuleLine.Printing

/-!
# Round trip

The line that was written is read with its meaning. Its fields denote what its classes do, so they
fit together alike, span equally many combinations, and have the same rule in each of them.
-/
namespace TuringScript.Printing

/-! ### Classes -/

/-- Items of printed elements do not depend on what stands before them: they begin escaped. -/
theorem items_atoms (previous : Option Char) (elements : List Element) :
    Grammar.items previous (elements.flatMap Element.atoms) =
      (elements.flatMap Element.chars).map (⟨·, true⟩) := by
  induction elements generalizing previous with
  | nil => cases previous <;> rfl
  | cons element elements ih =>
    cases element with
    | single c =>
      change Grammar.items previous (.escaped c :: elements.flatMap Element.atoms) = _
      rw [Grammar.items, ih]
      · rfl
      · rintro low high rest rfl ⟨⟩
    | range low high =>
      change Grammar.items previous (.escaped low :: .plain '.' :: .plain '.' :: .escaped high ::
        elements.flatMap Element.atoms) = _
      rw [Grammar.items, Grammar.items, ih]
      · simp [Grammar.Atom.alternative, Grammar.Atom.char, Element.chars]
      · rintro low high rest rfl ⟨⟩

theorem alternatives_tree (charClass : Class) :
    charClass.tree.charClass.alternatives = charClass.chars.map (⟨·, true⟩) := by
  obtain ⟨channel, negated, elements⟩ := charClass
  have listed := items_atoms none elements
  cases negated with
  | true =>
    change (Alphabet.chars.filter (· ∉ (Grammar.items none (elements.flatMap Element.atoms)).map
      Alternative.char)).map _ = (Alphabet.chars.filter (· ∉ elements.flatMap Element.chars)).map _
    rw [listed]
    simp
  | false =>
    change _ = (elements.flatMap Element.chars).map _
    rw [← listed]
    -- The content does not begin with a negation marker, since its first atom is escaped.
    rcases elements with _ | ⟨_ | _, elements⟩ <;> rfl

theorem size_tree (charClass : Class) :
    charClass.tree.charClass.size = charClass.chars.length := by
  rw [CharClass.size_eq_length, alternatives_tree, List.length_map]

theorem pick_tree (charClass : Class) (inhabited : charClass.chars ≠ [])
    (positions : Channel → Nat) :
    charClass.tree.charClass.pick positions = ⟨charClass.at positions, true⟩ := by
  have some : charClass.chars.length ≠ 0 := by simpa using inhabited
  have place : charClass.tree.charClass.position positions =
      if charClass.chars.length = 1 then 0 else positions charClass.channel := by
    unfold CharClass.position
    rw [Grammar.channel_charClass, size_tree]
    dsimp only
    split <;> split <;> first | rfl | omega
  rw [CharClass.pick, place, alternatives_tree, List.getD_map]
  rfl

/-! ### Fields -/

variable {line : Line}

/-- The class of a slot that is one escaped character. -/
def bareClass (c : Char) : CharClass := ⟨none, .listed [⟨c, true⟩]⟩

theorem forall_mem_slot {property : CharClass → Prop} (bare : ∀ c, property (bareClass c))
    (slot : Slot) :
    property slot.tree.charClass ↔ ∀ c ∈ slot.classes, property c.tree.charClass := by
  cases slot with
  | char c => exact ⟨fun _ => nofun, fun _ => bare c⟩
  | bracketed charClass => simp [Slot.classes, Slot.tree, Grammar.SlotTree.charClass]

theorem forall_mem_state (property : CharClass → Prop) (state : State) :
    (∀ c ∈ state.tree.field.toList, property c) ↔
      ∀ c ∈ state.classes, property c.tree.charClass := by
  cases state <;> simp [State.classes, State.tree, Grammar.StateTree.field, StateField.toList]

/-- What holds of all single characters holds of all fields if it holds of all classes. -/
theorem forall_mem_classes {property : CharClass → Prop} (bare : ∀ c, property (bareClass c))
    (line : Line) :
    (∀ c ∈ line.tree.fields.toList, property c) ↔
      ∀ c ∈ line.classes, property c.tree.charClass := by
  rw [Grammar.forall_mem_fields]
  simp only [Line.tree, forall_mem_state, forall_mem_slot bare, Line.classes, List.mem_append,
    or_imp, forall_and, and_assoc]

theorem proper_tree (inhabited : line.Inhabited) :
    ∀ c ∈ line.tree.fields.toList, Grammar.Proper c := by
  rw [forall_mem_classes fun c => by simp [Grammar.Proper, bareClass, CharClass.size]]
  intro c member
  refine ⟨?_, fun bare => by cases bare⟩
  rw [size_tree]
  simpa using inhabited c member

theorem sizesAgree_tree_iff (line : Line) :
    line.tree.fields.sizesAgree = true ↔ line.LengthsAgree := by
  rw [RuleFields.sizesAgree_iff, forall_mem_classes fun c => by simp [bareClass]]
  unfold Line.LengthsAgree
  apply forall₂_congr
  intro c _
  rw [forall_mem_classes fun d bracketed same => absurd same bracketed]
  simp only [Grammar.channel_charClass, size_tree, ne_eq, reduceCtorEq, not_false_eq_true,
    forall_const, Option.some.injEq]
  rfl

/-! ### Spans -/

theorem mem_fields_iff (line : Line) {charClass : CharClass}
    (bracketed : charClass.channel ≠ none) :
    charClass ∈ line.tree.fields.toList ↔ ∃ c ∈ line.classes, c.tree.charClass = charClass := by
  constructor
  · intro member
    have all := (@forall_mem_classes
      (fun d => d.channel ≠ none → ∃ c ∈ line.classes, c.tree.charClass = d)
      (fun c bare => absurd rfl bare) line).mpr fun c member _ => ⟨c, member, rfl⟩
    exact all charClass member bracketed
  · rintro ⟨c, member, rfl⟩
    have all := (@forall_mem_classes (fun d => d.channel ≠ none → d ∈ line.tree.fields.toList)
      (fun c bare => absurd rfl bare) line).mp fun d member _ => member
    exact all c member bracketed

theorem span_tree (inhabited : line.Inhabited) (agree : line.LengthsAgree) (channel : Channel) :
    line.tree.fields.span channel = line.span channel := by
  -- The classes that count share one length. If there are none, all lengths in the channel are one.
  have agree := (sizesAgree_tree_iff line).mpr agree
  have counting (c : Class) (member : c ∈ line.classes) (bracket : c.channel = channel)
      (several : 1 < c.chars.length) : line.tree.fields.span channel = c.chars.length := by
    rw [← size_tree] at several ⊢
    have listed := (mem_fields_iff line (Option.some_ne_none _)).mpr ⟨c, member, rfl⟩
    have counts := (CharClass.counts_iff channel _).mpr ⟨congrArg some bracket, several⟩
    exact (RuleFields.size_eq_span agree listed counts).symm
  have constant (small : ∀ c ∈ line.classes, c.channel = channel → c.chars.length ≤ 1) :
      line.tree.fields.span channel = 1 := by
    apply RuleFields.span_eq_one
    intro d member
    by_contra counts
    rw [Bool.not_eq_false, CharClass.counts_iff] at counts
    obtain ⟨c, listed, rfl⟩ := (mem_fields_iff line (by simp [counts.1])).mp member
    obtain ⟨bracket, several⟩ := counts
    rw [size_tree] at several
    exact absurd (small c listed (Option.some.inj bracket)) (by omega)
  unfold Line.span
  cases longest : ((line.classes.filter (·.channel = channel)).map (·.chars.length)).max? with
  | none =>
    have none : ∀ c ∈ line.classes, c.channel ≠ channel := by simpa using longest
    exact constant fun c member bracket => absurd bracket (none c member)
  | some length =>
    obtain ⟨occurs, largest⟩ := List.max?_eq_some_iff.mp longest
    simp only [List.mem_map, List.mem_filter, decide_eq_true_eq] at occurs largest
    obtain ⟨c, ⟨member, bracket⟩, rfl⟩ := occurs
    have positive : c.chars.length ≠ 0 := by simpa using inhabited c member
    by_cases several : 1 < c.chars.length
    · exact counting c member bracket several
    · have one : c.chars.length = 1 := by omega
      rw [Option.getD_some, one]
      exact constant fun d member bracket => one ▸ largest _ ⟨d, ⟨member, bracket⟩, rfl⟩

theorem digits_tree (inhabited : line.Inhabited) (agree : line.LengthsAgree) (k : Nat) :
    Expansion.digits (line.tree.fields.span .square) k = line.positions k := by
  funext channel
  cases channel <;> simp only [Expansion.digits, Line.positions, span_tree inhabited agree]

/-! ### Rules -/

theorem name_tree (state : State) (inhabited : ∀ c ∈ state.classes, c.chars ≠ [])
    (positions : Channel → Nat) :
    (state.tree.field.map (CharClass.pick positions)).name = state.at positions := by
  have chars (text : String) :
      String.ofList ((escapedAtoms text).map Grammar.Atom.char) = text := by
    simp [escapedAtoms, Function.comp_def, Grammar.Atom.char]
  cases state with
  | literal name => exact chars name
  | varying front middle back =>
    simp only [State.tree, Grammar.StateTree.field, StateField.map, StateField.name, chars]
    rw [pick_tree middle (inhabited middle (.head _))]
    rfl

theorem pick_slot (slot : Slot) (inhabited : ∀ c ∈ slot.classes, c.chars ≠ [])
    (positions : Channel → Nat) :
    slot.tree.charClass.pick positions = ⟨slot.at positions, true⟩ := by
  cases slot with
  | char c => rfl
  | bracketed charClass => exact pick_tree charClass (inhabited charClass (.head _)) positions

theorem ruleAt_tree (inhabited : line.Inhabited) (agree : line.LengthsAgree) (number : Nat)
    {k : Nat} (inside : k < line.span .square * line.span .curly) :
    RuleTemplate.ruleAt ⟨line.tree.fields, number⟩ k = line.ruleAt number k := by
  have proper := proper_tree inhabited
  rw [← span_tree inhabited agree, ← span_tree inhabited agree] at inside
  rw [RuleTemplate.ruleAt, RuleFields.combination_eq_map_pick ((sizesAgree_tree_iff line).mpr agree)
    (fun c member => (proper c member).1) inside, RuleFields.rule_map_some,
    digits_tree inhabited agree]
  simp only [Line.Inhabited, Line.classes, List.mem_append, or_imp, forall_and] at inhabited
  obtain ⟨⟨⟨⟨startState, startSymbol⟩, destState⟩, destSymbol⟩, move⟩ := inhabited
  simp only [RuleFields.map, Grammar.LineTree.fields, Line.tree, name_tree _ startState,
    name_tree _ destState, pick_slot _ startSymbol, pick_slot _ destSymbol, pick_slot _ move]
  rfl

/-! ### Lines -/

theorem template_tree (inhabited : line.Inhabited) (marker : Char) (number : Nat) :
    (RuleLine.readFields marker line.render.toList).bind (·.template number) =
      if line.LengthsAgree then .ok ⟨line.tree.fields, number⟩ else .error .lengthMismatch := by
  have reads := line_render true marker line
  obtain ⟨start, rest, fields⟩ := Grammar.fields_of_line reads
  rw [Grammar.readFields_of_line reads]
  change line.tree.texts.template number = _
  rw [Grammar.template_of_proper fields (proper_tree inhabited), RuleTemplate.ofFields]
  simp only [sizesAgree_tree_iff]

theorem outcome_tree (inhabited : line.Inhabited) (agree : line.LengthsAgree) (number : Nat) :
    (RuleTemplate.mk line.tree.fields number).outcome = line.meaning number := by
  have rules : (List.range (line.span .square * line.span .curly)).map
      (RuleTemplate.ruleAt ⟨line.tree.fields, number⟩) =
      (List.range (line.span .square * line.span .curly)).map (line.ruleAt number) := by
    apply List.map_congr_left
    intro k member
    exact ruleAt_tree inhabited agree number (List.mem_range.mp member)
  rw [Expansion.outcome_eq ⟨line.tree.fields, number⟩ ((sizesAgree_tree_iff line).mpr agree)]
  simp only [span_tree inhabited agree, rules]
  rw [Line.meaning, if_pos agree]

theorem skips_render (dialect : Dialect) (line : Line) :
    dialect.skips line.render.toList = (dialect.commentMarker == '(') := by
  have first : line.render.toList.head? = some '(' := by simp [Line.render]
  have visible : line.render.toList.all Text.isWhiteSpace = false := by
    rw [List.all_eq_false]
    exact ⟨'(', List.mem_of_head? first, by decide⟩
  rw [Dialect.skips, first, visible, Bool.or_false]
  exact Bool.beq_comm

/-- What was written is read with its meaning, provided that folding leaves it alone. Only if the
comment marker is the opening parenthesis is it a comment. -/
theorem readLine_render (dialect : Dialect) (line : Line) (number : Nat)
    (inhabited : line.Inhabited) (unfolded : dialect.fold line.render = line.render.toList) :
    dialect.readLine number line.render =
      if dialect.commentMarker = '(' then .skipped else line.meaning number := by
  have template := template_tree inhabited dialect.commentMarker number
  unfold Dialect.readLine
  dsimp only [bind]
  rw [unfolded, skips_render, template]
  by_cases comment : dialect.commentMarker = '('
  · simp [comment]
  · simp only [beq_iff_eq, comment, if_false]
    by_cases agree : line.LengthsAgree
    · simp only [agree, if_true]
      exact outcome_tree inhabited agree number
    · simp [agree, Line.meaning]

/-- Two channels with classes of two and three characters, and structure characters as content. -/
def twoChannels : Line where
  startState := .varying "(" ⟨.square, false, [.single 'A', .single ',']⟩ ""
  startSymbol := .bracketed ⟨.curly, false, [.range '0' '2']⟩
  destState := .literal "\\]" (by decide)
  destSymbol := .char '-'
  move := .char '>'

theorem readLine_render_twoChannels :
    twoChannels.Inhabited ∧
    (Dialect.mk false '#').fold twoChannels.render = twoChannels.render.toList ∧
    (Dialect.mk false '#').readLine 7 twoChannels.render = twoChannels.meaning 7 := by
  have inhabited : twoChannels.Inhabited := by
    unfold Line.Inhabited
    decide
  have unfolded : (Dialect.mk false '#').fold twoChannels.render = twoChannels.render.toList := rfl
  exact ⟨inhabited, unfolded, readLine_render ⟨false, '#'⟩ twoChannels 7 inhabited unfolded⟩

end TuringScript.Printing
