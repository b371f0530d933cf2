import TuringScript.Proofs.CharClass.Ranges
import TuringScript.Proofs.RuleLine.Scanning
import TuringScript.RuleLine.Reader

/-!
# What a rule line denotes

The denotation of the trees of the grammar. It goes by atoms, and agrees with the decoders, which go
by characters, on everything that has been read.
-/
namespace TuringScript.Grammar

open RuleLine

/-! ### Classes -/

/-- The items of a class. Two plain dots between two atoms add what is ranked between the
characters; `previous` is the character before the atoms, if there is one. -/
def items : Option Char → List Atom → List Alternative
  | _, [] => []
  | some low, .plain '.' :: .plain '.' :: high :: rest =>
    (Alphabet.between low high.char).map (⟨·, true⟩) ++ items (some high.char) rest
  | _, atom :: rest => atom.alternative :: items (some atom.char) rest

/-- A plain negation marker in front excludes what follows it. -/
def ClassTree.charClass (tree : ClassTree) : CharClass where
  channel := some tree.channel
  members := match tree.content with
    | .plain '^' :: excluded => .complement ((items none excluded).map Alternative.char)
    | listed => .listed (items none listed)

/-- Not an escape that protects nothing. -/
def Atom.Regular (atom : Atom) : Prop := atom ≠ .plain '\\'

theorem Atom.Regular.ne_escape {c : Char} (regular : (Atom.plain c).Regular) : c ≠ '\\' := by
  rintro rfl
  exact regular rfl

theorem regular_of_run {lone : Bool} {text rest : List Char} {run : List Atom} {c : Char}
    (reads : Run lone text run (c :: rest)) : ∀ atom ∈ run, atom.Regular := by
  generalize stops : c :: rest = after at reads
  induction reads with
  | done => simp
  | escaped _ ih =>
    rintro atom (_ | ⟨_, member⟩)
    · simp [Atom.Regular]
    · exact ih stops atom member
  | plain ordinary _ ih =>
    rintro atom (_ | ⟨_, member⟩)
    · rintro ⟨⟩
      exact absurd ordinary (by decide)
    · exact ih stops atom member
  | last => cases stops

theorem spelling_eq_dot_cons {run : List Atom} {text : List Char}
    (spells : spelling run = '.' :: text) :
    ∃ rest, run = .plain '.' :: rest ∧ spelling rest = text := by
  rcases run with _ | ⟨c | c, rest⟩
  · cases spells
  · cases spells
    exact ⟨rest, rfl, rfl⟩
  · exact absurd spells (by simp [spelling, Atom.spelling])

theorem contentItems_plain {previous : Option Char} {c : Char} {text : List Char}
    (visible : c ≠ '\\')
    (single : ∀ low high rest, previous = some low → c = '.' → text ≠ '.' :: high :: rest) :
    CharClass.contentItems previous (c :: text) =
      ⟨c, false⟩ :: CharClass.contentItems (some c) text := by
  rw [CharClass.contentItems]
  · rintro d rest rfl rfl
    exact absurd rfl visible
  · rintro low high rest rfl rfl rfl
    exact single low _ _ rfl rfl rfl
  · rintro low high rest rfl rfl rfl
    exact single low _ _ rfl rfl rfl

theorem contentItems_spelling (previous : Option Char) {content : List Atom}
    (regular : ∀ atom ∈ content, atom.Regular) :
    CharClass.contentItems previous (spelling content) = items previous content := by
  -- Along the atoms. Both sides branch on the same spelling, except where an escape hides a dot.
  fun_induction items previous content with
  | case1 => simp [spelling, CharClass.contentItems]
  | case2 low high rest ih =>
    have later := ih fun atom member => regular atom (by simp [member])
    rw [← later, ← CharClass.rangeItems_eq]
    cases high with
    | plain c =>
      have visible := (regular (.plain c) (by simp)).ne_escape
      change CharClass.contentItems (some low) ('.' :: '.' :: c :: spelling rest) = _
      rw [CharClass.contentItems]
      · rfl
      · rintro d text rfl
        exact absurd rfl visible
    | escaped c => rfl
  | case3 previous atom rest single ih =>
    have later := ih fun atom member => regular atom (by simp [member])
    rw [← later]
    cases atom with
    | plain c =>
      have visible := (regular (.plain c) (by simp)).ne_escape
      apply contentItems_plain visible
      -- Two dots and a character would be spelled by three atoms, which the case excludes.
      rintro low high text rfl rfl spells
      obtain ⟨others, rfl, spells⟩ := spelling_eq_dot_cons spells
      rcases others with _ | ⟨next, others⟩
      · cases spells
      · exact single low next others rfl rfl rfl
    | escaped c =>
      change CharClass.contentItems previous ('\\' :: c :: spelling rest) = _
      cases previous <;> rfl

theorem bracketed_spelling (channel : Channel) {content : List Atom}
    (regular : ∀ atom ∈ content, atom.Regular) :
    CharClass.bracketed channel (spelling content) = (ClassTree.mk channel content).charClass := by
  have listed := contentItems_spelling none regular
  rcases content with _ | ⟨c | c, rest⟩
  · rfl
  · by_cases negated : c = '^'
    -- The marker is not an item itself, so what follows it is read from the start.
    · subst negated
      have excluded := contentItems_spelling none fun atom member =>
        regular atom (List.mem_cons_of_mem _ member)
      change CharClass.mk (some channel)
        (.complement ((CharClass.contentItems none (spelling rest)).map (·.char))) = _
      rw [excluded]
      rfl
    · change CharClass.bracketed channel (c :: spelling rest) = _
      change CharClass.contentItems none (c :: spelling rest) = _ at listed
      unfold CharClass.bracketed ClassTree.charClass
      split <;> split <;> simp_all
  · exact congrArg (CharClass.mk (some channel) ∘ Members.listed) listed

theorem charClass_text {lone : Bool} {text rest : List Char} {tree : ClassTree}
    (reads : Class lone text tree rest) : tree.text.charClass = tree.charClass := by
  obtain ⟨run⟩ := reads
  exact bracketed_spelling _ (regular_of_run run)

/-! ### Bare runs -/

theorem tokenItems_spelling {text rest : List Char} {run : List Atom}
    (reads : Run true text run rest) :
    CharClass.tokenItems (spelling run) = run.map Atom.alternative := by
  induction reads with
  | done => rfl
  | escaped _ ih => exact congrArg (_ :: ·) ih
  | @plain c _ _ run ordinary _ ih =>
    change CharClass.tokenItems (c :: spelling run) = _
    rw [CharClass.tokenItems, ih]
    · rfl
    · rintro d rest rfl
      exact absurd ordinary (by decide)
  | last => rfl

theorem unescape_spelling {text rest : List Char} {run : List Atom}
    (reads : Run true text run rest) : unescape (spelling run) = run.map Atom.char := by
  induction reads with
  | done => rfl
  | escaped _ ih => exact congrArg (_ :: ·) ih
  | @plain c _ _ run ordinary _ ih =>
    change unescape (c :: spelling run) = _
    rw [unescape, ih]
    · rfl
    · rintro d rest rfl
      exact absurd ordinary (by decide)
  | last => rfl

/-! ### Fields -/

def StateTree.field : StateTree → StateField CharClass
  | .bare run => .literal (String.ofList (run.map Atom.char))
  | .varying front middle back =>
    .varying (String.ofList (front.map Atom.char)) middle.charClass
      (String.ofList (back.map Atom.char))

def SlotTree.charClass : SlotTree → CharClass
  | .bare run => ⟨none, .listed (run.map Atom.alternative)⟩
  | .bracketed tree => tree.charClass

def LineTree.fields (tree : LineTree) : RuleFields CharClass where
  startState := tree.startState.field
  startSymbol := tree.startSymbol.charClass
  destState := tree.destState.field
  destSymbol := tree.destSymbol.charClass
  move := tree.move.charClass

/-- A class has an alternative, and a bare run exactly one. -/
def Proper (charClass : CharClass) : Prop :=
  charClass.size ≠ 0 ∧ (charClass.channel = none → charClass.size = 1)

theorem channel_charClass (tree : ClassTree) : tree.charClass.channel = some tree.channel := rfl

theorem template?_state {text rest : List Char} {tree : StateTree}
    (reads : State true text tree rest) (field : StateField CharClass) :
    tree.text.template? = some field ↔
      (∀ c ∈ tree.field.toList, Proper c) ∧ tree.field = field := by
  cases reads with
  | bare run =>
    simp [StateTree.text, StateText.template?, StateTree.field, StateField.toList,
      unescape_spelling run]
  | varying before charClass behind =>
    simp [StateTree.text, StateText.template?, StateTree.field, StateField.toList,
      unescape_spelling before, unescape_spelling behind, charClass_text charClass,
      CharClass.isEmpty, Proper, channel_charClass]

theorem template?_slot {text rest : List Char} {tree : SlotTree}
    (reads : Slot true text tree rest) (charClass : CharClass) :
    tree.text.template? = some charClass ↔ Proper tree.charClass ∧ tree.charClass = charClass := by
  have denotes : tree.text.charClass = tree.charClass := by
    cases reads with
    | bare run => exact congrArg (CharClass.mk none ∘ Members.listed) (tokenItems_spelling run)
    | bracketed read => exact charClass_text read
  unfold FieldText.template? Proper
  rw [denotes]
  cases channel : tree.charClass.channel <;> simp [CharClass.isEmpty, channel, and_assoc]

/-! ### Templates -/

theorem forall_mem_fields (property : CharClass → Prop) (tree : LineTree) :
    (∀ c ∈ tree.fields.toList, property c) ↔
      (∀ c ∈ tree.startState.field.toList, property c) ∧ property tree.startSymbol.charClass ∧
      (∀ c ∈ tree.destState.field.toList, property c) ∧ property tree.destSymbol.charClass ∧
      property tree.move.charClass := by
  simp [RuleFields.toList, LineTree.fields, or_imp, forall_and]

theorem template_of_proper {text rest : List Char} {tree : LineTree}
    (reads : Fields true text tree rest) (proper : ∀ c ∈ tree.fields.toList, Proper c)
    (number : Nat) : tree.texts.template number = RuleTemplate.ofFields tree.fields number := by
  obtain ⟨⟨_, _, -, a, -⟩, ⟨_, _, -, b, -⟩, ⟨_, _, -, c, -⟩, ⟨_, _, -, d, -⟩,
    ⟨_, _, -, e, -⟩⟩ := reads
  obtain ⟨properA, properB, properC, properD, properE⟩ := (forall_mem_fields Proper tree).mp proper
  simp only [FieldTexts.template, LineTree.texts, Field.present, Field.wellFormed,
    (template?_state a _).mpr ⟨properA, rfl⟩, (template?_slot b _).mpr ⟨properB, rfl⟩,
    (template?_state c _).mpr ⟨properC, rfl⟩, (template?_slot d _).mpr ⟨properD, rfl⟩,
    (template?_slot e _).mpr ⟨properE, rfl⟩, bind, Except.bind]
  rfl

theorem wellFormed_eq_ok_iff {α : Type} (field : Field) (reading : Option α) (value : α) :
    field.wellFormed reading = .ok value ↔ reading = some value := by
  cases reading <;> simp [Field.wellFormed]

theorem proper_of_template {text rest : List Char} {tree : LineTree}
    (reads : Fields true text tree rest) {number : Nat} {template : RuleTemplate}
    (made : tree.texts.template number = .ok template) : ∀ c ∈ tree.fields.toList, Proper c := by
  obtain ⟨⟨_, _, -, a, -⟩, ⟨_, _, -, b, -⟩, ⟨_, _, -, c, -⟩, ⟨_, _, -, d, -⟩,
    ⟨_, _, -, e, -⟩⟩ := reads
  simp only [FieldTexts.template, LineTree.texts, Field.present, bind_eq_ok_iff,
    wellFormed_eq_ok_iff, template?_state a, template?_slot b, template?_state c, template?_slot d,
    template?_slot e, Except.ok.injEq, exists_eq_left'] at made
  obtain ⟨_, ⟨properA, -⟩, _, ⟨properB, -⟩, _, ⟨properC, -⟩, _, ⟨properD, -⟩, _,
    ⟨properE, -⟩, -⟩ := made
  exact (forall_mem_fields Proper tree).mpr ⟨properA, properB, properC, properD, properE⟩

end TuringScript.Grammar
