import TuringScript.Proofs.RuleLine.Layout

/-!
# The start state of a line

A line whose start state is spelled out, with an escape wherever one is needed and perhaps elsewhere,
has rules that start in the folded name: it makes no difference whether a name is folded as it
stands, or as part of a line that is cut to fields and freed of its escapes afterwards.
-/
namespace TuringScript

open Grammar RuleLine Printing

/-! ### Rules of a literal start state -/

theorem RuleTemplate.state_of_mem_outcome {template : RuleTemplate} (ready : template.Ready)
    {name : String} (literal : template.fields.startState = .literal name) {rule : Rule}
    (member : rule ∈ template.outcome.rules) : rule.key.state = name := by
  obtain ⟨k, -, read⟩ := exists_ruleAt_of_mem_outcome ready member
  simp only [ruleAt, RuleFields.rule, bind_eq_ok_iff, Grammar.wellFormed_eq_ok_iff] at read
  obtain ⟨state, named, symbol, -, nextState, -, write, -, direction, -, returned⟩ := read
  cases returned
  simp only [RuleFields.combination, RuleFields.map, literal, StateField.map, StateField.name?,
    Option.some.injEq] at named
  exact named.symm

/-- An expansion without a fault has at least one rule. -/
theorem RuleTemplate.rules_ne_nil {template : RuleTemplate} (ready : template.Ready)
    (faultless : template.outcome.fault? = none) : template.outcome.rules ≠ [] := by
  intro none
  rcases outcome_cases ready with ⟨-, all⟩ | ⟨k, -, fault, -⟩
  · have counted := congrArg List.length all
    rw [none, List.length_map, List.length_map, List.length_range] at counted
    exact absurd counted.symm (Nat.ne_of_gt template.total_pos)
  · exact absurd (faultless.symm.trans fault) nofun

theorem RuleLine.FieldTexts.startState_of_template {texts : FieldTexts} {number : Nat}
    {template : RuleTemplate} {state : StateText} (made : texts.template number = .ok template)
    (present : texts.startState = some state) :
    state.template? = some template.fields.startState := by
  obtain ⟨a, b, c, d, e, rfl⟩ := Grammar.complete_of_template made
  cases present
  simp only [FieldTexts.template, Field.present, bind_eq_ok_iff, Grammar.wellFormed_eq_ok_iff,
    Except.ok.injEq, exists_eq_left'] at made
  obtain ⟨a', madeA, b', -, c', -, d', -, e', -, made⟩ := made
  simp only [RuleTemplate.ofFields] at made
  split at made
  · cases made
    exact madeA
  · cases made

/-! ### Spelling a start state -/

namespace Grammar

/-- The line begins with a parenthesis and its start state is the name. Any character of the name may
be escaped, and those that do not stand for themselves are; blanks may stand around it. -/
def SpellsStart (name line : String) : Prop :=
  ∃ (before after : List Blank) (run : List Atom) (rest : List Char),
    line.toList =
      '(' :: (Blank.text before ++ (spelling run ++ (Blank.text after ++ ',' :: rest))) ∧
    (∀ atom ∈ run, Solid atom) ∧ run.map Atom.char = name.toList

theorem readable_bare {run : List Atom} (solid : ∀ atom ∈ run, Solid atom) (nonempty : run ≠ []) :
    Readable (State true) (spelling run) (.bare run) where
  reads _ stops := .bare (run_of_solid solid stops) nonempty
  visible := IsRun.visible ⟨run, solid, rfl⟩ (mt (spelling_eq_nil_iff run).mp nonempty)

theorem startState_of_readFields {marker : Char} {text rest : List Char} {tree : StateTree}
    {texts : FieldTexts} (starts : Padded (State true) text tree (',' :: rest))
    (cut : readFields marker ('(' :: text) = .ok texts) : texts.startState = some tree.text := by
  obtain ⟨start, stop, blanks, reads, follows⟩ := starts
  -- The start state is read first, and none of the later fields changes it.
  have opens : openRule ('(' :: text) = (true, text) := rfl
  simp only [readFields_eq, opens, readState_of_state blanks reads follows, bind_eq_ok_iff,
    Except.ok.injEq, exists_eq_left'] at cut
  obtain ⟨_, -, _, -, _, -, _, -, _, -, _, -, _, -, _, -, _, -, _, -, returned⟩ := cut
  cases returned
  rfl

theorem template?_bare {run : List Atom} (solid : ∀ atom ∈ run, Solid atom) :
    (StateTree.bare run).text.template? =
      some (.literal (String.ofList (run.map Atom.char))) := by
  have reads := run_of_solid solid (not_beginsAtom_nil true)
  rw [StateTree.text, StateText.template?, unescape_spelling reads]

end Grammar

namespace Dialect

variable {dialect : Dialect} {number : Nat} {name line : String}

/-- The rules of a line that is read without a fault and spells its start state. -/
theorem state_of_spellsStart (other : dialect.commentMarker ≠ '(') (nonempty : name ≠ "")
    (spells : SpellsStart name line) (faultless : (dialect.readLine number line).fault? = none) :
    (dialect.readLine number line).rules ≠ [] ∧
      ∀ rule ∈ (dialect.readLine number line).rules,
        rule.key.state = String.ofList (dialect.fold name) := by
  obtain ⟨before, after, run, rest, text, solid, chars⟩ := spells
  have folded : dialect.fold line = '(' :: (Blank.text before ++
      (spelling (foldRun dialect run) ++
        (Blank.text after ++ ',' :: rest.flatMap dialect.foldChar))) := by
    rw [fold_eq_flatMap, text]
    simp (disch := decide) only [List.flatMap_cons, List.flatMap_append, flatMap_foldChar_blanks,
      spelling_foldRun, foldChar_of_not_ordinary, List.singleton_append]
  have holds : dialect.skips (dialect.fold line) = false := by
    have visible : Text.isWhiteSpace '(' = false := by decide
    simp [skips, folded, other.symm, visible]
  -- The folded run spells the folded name, and is not empty since the name is not.
  have named : (foldRun dialect run).map Atom.char = dialect.fold name := by
    rw [map_char_foldRun, chars, fold_eq_flatMap]
  have some : foldRun dialect run ≠ [] := by
    rintro empty
    rw [empty, List.map_nil, fold_eq_flatMap] at named
    exact flatMap_foldChar_ne_nil dialect (by simpa using nonempty) named.symm
  have comma : isBlank ',' = false := rfl
  have starts := (readable_bare (solid_foldRun dialect solid) some).padded before after
    (not_beginsAtom_append (not_beginsAtom_of_special rfl _) after)
    (blanks_cons comma (rest.flatMap dialect.foldChar))
  rw [readLine_eq, holds, if_neg Bool.false_ne_true] at faultless ⊢
  -- A line without a fault has a template, and the template has the name that was cut from it.
  cases made : dialect.template number line with
  | error fault =>
    rw [made] at faultless
    cases faultless
  | ok template =>
    rw [made] at faultless
    obtain ⟨texts, cut, making⟩ := bind_eq_ok_iff.mp made
    rw [folded] at cut
    have ready := (ready_of_template making).1
    have literal := FieldTexts.startState_of_template making (startState_of_readFields starts cut)
    rw [template?_bare (solid_foldRun dialect solid), named, Option.some.injEq] at literal
    exact ⟨RuleTemplate.rules_ne_nil ready faultless, fun rule member =>
      RuleTemplate.state_of_mem_outcome ready literal.symm member⟩

end Dialect
end TuringScript
