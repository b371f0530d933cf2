import Mathlib.Data.List.GetD
import TuringScript.Proofs.RuleLine.EndingEscape
import TuringScript.Proofs.RuleLine.Enumeration

/-!
# Acceptance

A line that is not skipped is read without a fault exactly if it is a rule line of the grammar whose
fields fit together.
-/
namespace TuringScript

namespace Grammar

open RuleLine

/-- What the fields of a rule line have to denote. -/
structure LineTree.Admissible (tree : LineTree) : Prop where
  inhabited : ∀ c ∈ tree.fields.toList, c.alternatives ≠ []
  single : ∀ c ∈ tree.fields.toList, c.channel = none → c.alternatives.length = 1
  agree : ∀ c ∈ tree.fields.toList, ∀ d ∈ tree.fields.toList,
    c.channel ≠ none → c.channel = d.channel →
    c.alternatives.length ≠ 1 → d.alternatives.length ≠ 1 →
    c.alternatives.length = d.alternatives.length
  moves : ∀ a ∈ tree.move.charClass.alternatives, ∃ direction : Direction, a.char = direction.glyph

/-- With `lone`, an escape that ends the text counts as an atom. -/
def Accepts (lone : Bool) (marker : Char) (text : List Char) : Prop :=
  ∃ tree, Line lone marker text tree ∧ tree.Admissible

/-! ### Faults of an expansion -/

theorem ofGlyph?_eq_some_iff (c : Char) (direction : Direction) :
    Direction.ofGlyph? c = some direction ↔ c = direction.glyph := by
  constructor
  · intro read
    unfold Direction.ofGlyph? at read
    split at read <;> cases read <;> rfl
  · rintro rfl
    exact Direction.ofGlyph?_glyph direction

theorem ruleAt_eq_ok_iff {template : RuleTemplate} (agree : template.fields.sizesAgree = true)
    (inhabited : ∀ c ∈ template.fields.toList, c.size ≠ 0) {k : Nat}
    (inside : k < template.fields.span .square * template.fields.span .curly) :
    (∃ rule, template.ruleAt k = .ok rule) ↔ ∃ direction : Direction,
      (template.fields.move.pick (Expansion.digits (template.fields.span .square) k)).char =
        direction.glyph := by
  rw [RuleTemplate.ruleAt, RuleFields.combination_eq_map_pick agree inhabited inside,
    RuleFields.rule_map_some]
  simp only [RuleFields.map, ← ofGlyph?_eq_some_iff]
  cases Direction.ofGlyph? _ <;> simp

/-- An expansion is without a fault if every move that occurs is a move. -/
theorem fault?_outcome_eq_none_iff (template : RuleTemplate)
    (agree : template.fields.sizesAgree = true) (proper : ∀ c ∈ template.fields.toList, Proper c) :
    template.outcome.fault? = none ↔ ∀ a ∈ template.fields.move.alternatives,
      ∃ direction : Direction, a.char = direction.glyph := by
  have inhabited : ∀ c ∈ template.fields.toList, c.size ≠ 0 := fun c member => (proper c member).1
  have member : template.fields.move ∈ template.fields.toList := by simp [RuleFields.toList]
  rw [Expansion.outcome_eq template agree]
  simp only [LineOutcome.fault?, upToError_snd_eq_none_iff, List.forall_mem_map, List.mem_range]
  constructor
  -- Every alternative of the move comes up in some combination.
  · intro allRead a occurs
    obtain ⟨index, inside, rfl⟩ := List.mem_iff_getElem.mp occurs
    rw [← CharClass.size_eq_length] at inside
    obtain ⟨k, below, reached⟩ :=
      Expansion.exists_position_digits agree member (proper _ member).2 inside
    have move := (ruleAt_eq_ok_iff agree inhabited below).mp (allRead k below)
    rw [CharClass.size_eq_length] at inside
    rwa [CharClass.pick, reached, List.getD_eq_getElem _ _ inside] at move
  -- Every combination takes its move from the alternatives.
  · intro allMove k below
    have inside := Expansion.position_digits_lt agree member (inhabited _ member) below
    rw [CharClass.size_eq_length] at inside
    apply (ruleAt_eq_ok_iff agree inhabited below).mpr
    rw [CharClass.pick, List.getD_eq_getElem _ _ inside]
    exact allMove _ (List.getElem_mem inside)

/-! ### Admissible trees -/

theorem admissible_iff (tree : LineTree) :
    tree.Admissible ↔ (∀ c ∈ tree.fields.toList, Proper c) ∧ tree.fields.sizesAgree = true ∧
      ∀ a ∈ tree.fields.move.alternatives, ∃ direction : Direction, a.char = direction.glyph := by
  simp only [RuleFields.sizesAgree_iff, Proper, CharClass.size_eq_length]
  constructor
  · rintro ⟨inhabited, single, agree, moves⟩
    refine ⟨fun c member => ⟨?_, single c member⟩, agree, moves⟩
    exact fun empty => inhabited c member (List.eq_nil_of_length_eq_zero empty)
  · rintro ⟨proper, agree, moves⟩
    refine ⟨fun c member => ?_, fun c member => (proper c member).2, agree, moves⟩
    exact fun empty => (proper c member).1 (congrArg List.length empty)

/-- A rule line makes a template that expands without a fault exactly if it is admissible. -/
theorem expands_iff_admissible {marker : Char} {text : List Char} {tree : LineTree}
    (line : Line true marker text tree) (number : Nat) :
    (∃ template, tree.texts.template number = .ok template ∧ template.outcome.fault? = none) ↔
      tree.Admissible := by
  obtain ⟨start, rest, fields⟩ := fields_of_line line
  rw [admissible_iff]
  have expands := fault?_outcome_eq_none_iff ⟨tree.fields, number⟩
  constructor
  · rintro ⟨template, made, faultless⟩
    have proper := proper_of_template fields made
    rw [template_of_proper fields proper, RuleTemplate.ofFields] at made
    split at made
    next agree =>
      cases made
      exact ⟨proper, agree, (expands agree proper).mp faultless⟩
    · cases made
  · rintro ⟨proper, agree, moves⟩
    refine ⟨⟨tree.fields, number⟩, ?_, (expands agree proper).mpr moves⟩
    rw [template_of_proper fields proper, RuleTemplate.ofFields, if_pos agree]

/-- Five fields that make a template are all there. -/
theorem complete_of_template {texts : FieldTexts} {number : Nat} {template : RuleTemplate}
    (made : texts.template number = .ok template) :
    ∃ a b c d e, texts = ⟨some a, some b, some c, some d, some e⟩ := by
  rcases texts with ⟨_ | a, _ | b, _ | c, _ | d, _ | e⟩
  case some.some.some.some.some => exact ⟨a, b, c, d, e, rfl⟩
  all_goals simp [FieldTexts.template, Field.present, bind, Except.bind] at made

theorem faultless_iff_accepts {dialect : Dialect} {line : String}
    (holds : dialect.skips (dialect.fold line) = false) (number : Nat) :
    (dialect.readLine number line).fault? = none ↔
      Accepts true dialect.commentMarker (dialect.fold line) := by
  unfold Dialect.readLine Accepts
  dsimp only
  rw [holds, if_neg Bool.false_ne_true]
  constructor
  · intro faultless
    split at faultless
    next template made =>
      rw [bind_eq_ok_iff] at made
      obtain ⟨texts, cut, made⟩ := made
      -- Fields that were cut from the line are read back as a tree only if none is empty.
      obtain ⟨a, b, c, d, e, rfl⟩ := complete_of_template made
      obtain ⟨tree, reads, spells⟩ := exists_line cut
      rw [← spells] at made
      exact ⟨tree, reads, (expands_iff_admissible reads number).mp ⟨template, made, faultless⟩⟩
    · cases faultless
  · rintro ⟨tree, reads, admissible⟩
    obtain ⟨template, made, faultless⟩ := (expands_iff_admissible reads number).mpr admissible
    rw [readFields_of_line reads]
    simpa only [bind, Except.bind, made] using faultless

/-! ### The two grammars -/

theorem LineTree.Admissible.glyph_of_bare {tree : LineTree} {run : List Atom}
    (admissible : tree.Admissible) (bare : tree.move = .bare run) :
    ∀ atom ∈ run, ∃ direction : Direction, atom.char = direction.glyph := by
  intro atom member
  have listed : atom.alternative ∈ tree.move.charClass.alternatives := by
    rw [bare]
    exact List.mem_map_of_mem member
  have spelled : atom.alternative.char = atom.char := by cases atom <;> rfl
  rw [← spelled]
  exact admissible.moves atom.alternative listed

/-- A line that is accepted does not end in an escape that protects nothing. -/
theorem regular_of_admissible {tree : LineTree} {run : List Atom} (admissible : tree.Admissible)
    (move : tree.move = .bare run) : ∀ atom ∈ run, atom.Regular := by
  rintro atom member rfl
  obtain ⟨direction, glyph⟩ := admissible.glyph_of_bare move _ member
  cases direction <;> simp [Atom.char, Direction.glyph] at glyph

theorem accepts_strict_of_accepts_lone {marker : Char} {text : List Char}
    (accepts : Accepts true marker text) : Accepts false marker text := by
  obtain ⟨tree, line, admissible⟩ := accepts
  exact ⟨tree, line_strict line fun run => regular_of_admissible admissible, admissible⟩

/-- Only if it also begins a comment does the escape make a difference. -/
theorem accepts_lone_of_accepts_strict {marker : Char} {text : List Char} (other : marker ≠ '\\')
    (accepts : Accepts false marker text) : Accepts true marker text := by
  obtain ⟨tree, line, admissible⟩ := accepts
  exact ⟨tree, line_lenient line other, admissible⟩

end Grammar

open Grammar in
/-- A line that is not skipped is read without a fault exactly if the grammar accepts it, an escape
at its end counting as an atom; unless the escape also begins comments, it need not count. -/
theorem Dialect.readLine_faultless_iff_accepts (dialect : Dialect) (number : Nat) (line : String)
    (holds : dialect.skips (dialect.fold line) = false) :
    ((dialect.readLine number line).fault? = none ↔
      Accepts true dialect.commentMarker (dialect.fold line)) ∧
    (dialect.commentMarker ≠ '\\' →
      ((dialect.readLine number line).fault? = none ↔
        Accepts false dialect.commentMarker (dialect.fold line))) := by
  have main := faultless_iff_accepts holds number
  refine ⟨main, fun other => main.trans ?_⟩
  constructor
  · exact accepts_strict_of_accepts_lone
  · exact accepts_lone_of_accepts_strict other

theorem Grammar.accepts_parenthesized_rule :
    Dialect.standard.skips (Dialect.standard.fold "(A,[0..1],B{#},-,>)") = false ∧
      Grammar.Accepts true '#' "(A,[0..1],B{#},-,>)".toList := by
  have holds : Dialect.standard.skips (Dialect.standard.fold "(A,[0..1],B{#},-,>)") = false := by
    decide +kernel
  have folded : Dialect.standard.fold "(A,[0..1],B{#},-,>)" = "(A,[0..1],B{#},-,>)".toList := by
    decide +kernel
  have main := Dialect.standard.readLine_faultless_iff_accepts 1 "(A,[0..1],B{#},-,>)" holds
  have accepted := main.1.mp (by decide +kernel)
  rw [folded] at accepted
  exact ⟨holds, accepted⟩

/-! ### Where the escape has to count -/

namespace Grammar

theorem run_plain {lone : Bool} {c d : Char} (ordinary : Ordinary c)
    (special : (RuleLine.isBlank d || RuleLine.isKey d) = true) (rest : List Char) :
    Run lone (c :: d :: rest) [.plain c] (d :: rest) :=
  .plain ordinary (.done (not_beginsAtom_of_special special rest))

/-- The tree of `A,0,B,1,>`. -/
def plainTree : LineTree where
  startState := .bare [.plain 'A']
  startSymbol := .bare [.plain '0']
  destState := .bare [.plain 'B']
  destSymbol := .bare [.plain '1']
  move := .bare [.plain '>']

/-- With the escape as the comment marker, the one behind the move begins a comment unless it counts
as an atom. -/
theorem accepts_strict_escape_comment :
    Accepts false '\\' ['A', ',', '0', ',', 'B', ',', '1', ',', '>', '\\'] := by
  have stops : ¬ BeginsAtom false ['\\'] := by
    rintro (_ | ⟨_, _, ordinary⟩ | counts)
    · exact absurd ordinary (by decide)
    · cases counts
  have state {c : Char} (ordinary : Ordinary c) (text : List Char) :
      Padded (State false) (c :: ',' :: text) (.bare [.plain c]) (',' :: text) :=
    ⟨_, _, blanks_cons ((ordinary_iff c).mp ordinary).1 _,
      .bare (run_plain ordinary rfl text) (by simp), blanks_cons rfl text⟩
  have symbol {c : Char} (ordinary : Ordinary c) (text : List Char) :
      Padded (Slot false) (c :: ',' :: text) (.bare [.plain c]) (',' :: text) :=
    ⟨_, _, blanks_cons ((ordinary_iff c).mp ordinary).1 _,
      .bare (run_plain ordinary rfl text) (by simp), blanks_cons rfl text⟩
  have move : Padded (Slot false) ['>', '\\'] (.bare [.plain '>']) ['\\'] :=
    ⟨_, _, blanks_cons rfl _, .bare (.plain (by decide) (.done stops)) (by simp), blanks_cons rfl _⟩
  have fields : Fields false _ plainTree ['\\'] := .separated (state (by decide) _)
    (symbol (by decide) _) (state (by decide) _) (symbol (by decide) _) move
  refine ⟨plainTree, .bare (blanks_cons rfl _) fields ⟨_, blanks_cons rfl _, .inr ⟨[], rfl⟩⟩, ?_⟩
  constructor
  · decide
  · decide
  · decide
  · rintro a (_ | ⟨_, ⟨⟩⟩)
    exact ⟨.right, rfl⟩

theorem not_faultless_iff_accepts_strict :
    ¬ ∀ (dialect : Dialect) (number : Nat) (line : String),
      dialect.skips (dialect.fold line) = false →
      ((dialect.readLine number line).fault? = none ↔
        Accepts false dialect.commentMarker (dialect.fold line)) := by
  intro claim
  have folded : (Dialect.mk false '\\').fold "A,0,B,1,>\\" =
      ['A', ',', '0', ',', 'B', ',', '1', ',', '>', '\\'] := by
    decide +kernel
  have accepted := claim ⟨false, '\\'⟩ 1 "A,0,B,1,>\\" (by decide +kernel)
  rw [folded] at accepted
  have fault : ((Dialect.mk false '\\').readLine 1 "A,0,B,1,>\\").fault? =
      some (.malformed .move) := by
    decide +kernel
  rw [accepted.mpr accepts_strict_escape_comment] at fault
  cases fault

end Grammar
end TuringScript
