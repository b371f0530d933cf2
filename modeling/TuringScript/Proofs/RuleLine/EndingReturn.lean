import Mathlib.Data.List.Basic
import Mathlib.Logic.Relation
import TuringScript.Proofs.RuleLine.Acceptance
import TuringScript.Proofs.Source.Sink

/-!
# A carriage return at the end of a line

Reading an item does not depend on how much of the text behind it is there. So the last character of
a rule line can go, unless a field ends with it; and no field of a rule ends with a carriage return
at the end of its line. A line that is read without a fault is read the same without it.
-/
namespace TuringScript

namespace Grammar

open RuleLine Relation

/-! ### Cutting a text short -/

/-- What is read stands at the front of the text, and the rest may end anywhere. -/
def CutsShort (reads : List Char → List Char → Prop) : Prop :=
  ∀ text rest, reads text rest →
    ∃ front, text = front ++ rest ∧ ∀ stop, stop <+: rest → reads (front ++ stop) stop

/-- The character is read off the front. -/
def Single (c : Char) (text rest : List Char) : Prop := text = c :: rest

namespace CutsShort

theorem comp {first second : List Char → List Char → Prop} (before : CutsShort first)
    (after : CutsShort second) : CutsShort (Comp first second) := by
  rintro text rest ⟨middle, reads, further⟩
  obtain ⟨front, rfl, short⟩ := before text middle reads
  obtain ⟨back, rfl, shorter⟩ := after middle rest further
  refine ⟨front ++ back, (List.append_assoc front back rest).symm, ?_⟩
  intro stop begins
  rw [List.append_assoc]
  exact ⟨back ++ stop, short _ ((List.prefix_append_right_inj back).mpr begins),
    shorter stop begins⟩

theorem single (c : Char) : CutsShort (Single c) := by
  rintro text rest rfl
  exact ⟨[c], rfl, fun stop _ => rfl⟩

/-- Either all of the text is read, or its last character is left over and makes no difference. -/
theorem concat_cases {reads : List Char → List Char → Prop} (short : CutsShort reads)
    {text rest : List Char} {c : Char} (read : reads (text ++ [c]) rest) :
    rest = [] ∨ ∃ stop, rest = stop ++ [c] ∧ reads text stop := by
  obtain ⟨front, split, shorter⟩ := short _ _ read
  rcases rest.eq_nil_or_concat' with rfl | ⟨stop, d, rfl⟩
  · exact .inl rfl
  · rw [← List.append_assoc] at split
    obtain ⟨rfl, last⟩ := List.append_inj' split rfl
    cases last
    exact .inr ⟨stop, rfl, shorter stop (List.prefix_append stop [c])⟩

end CutsShort

theorem beginsAtom_append {lone : Bool} {text : List Char} (begins : BeginsAtom lone text)
    (back : List Char) : BeginsAtom lone (text ++ back) := by
  cases begins with
  | escaped c text => exact .escaped c (text ++ back)
  | plain c text ordinary => exact .plain c (text ++ back) ordinary
  | last counts =>
    -- Whatever comes behind an escape at the end is taken into the atom.
    rcases back with _ | ⟨c, back⟩
    · exact .last counts
    · exact .escaped c back

theorem cutsShort_run {lone : Bool} (run : List Atom) : CutsShort (Run lone · run ·) := by
  intro text rest reads
  induction reads with
  | @done rest maximal =>
    -- What does not begin with an atom does not begin with one when it is cut short.
    refine ⟨[], rfl, ?_⟩
    rintro stop ⟨back, rfl⟩
    exact .done fun begins => maximal (beginsAtom_append begins back)
  | @escaped c _ _ _ _ ih =>
    obtain ⟨front, rfl, short⟩ := ih
    exact ⟨'\\' :: c :: front, rfl, fun stop begins => .escaped (short stop begins)⟩
  | @plain c _ _ _ ordinary _ ih =>
    obtain ⟨front, rfl, short⟩ := ih
    exact ⟨c :: front, rfl, fun stop begins => .plain ordinary (short stop begins)⟩
  | last counts =>
    refine ⟨['\\'], rfl, ?_⟩
    intro stop begins
    obtain rfl := List.prefix_nil.mp begins
    exact .last counts

theorem cutsShort_blanks : CutsShort Blanks := by
  rintro text rest ⟨blanks, rfl, all, first⟩
  refine ⟨blanks, rfl, ?_⟩
  rintro stop ⟨back, rfl⟩
  refine ⟨blanks, rfl, all, ?_⟩
  intro c head
  exact first c (by simp [List.head?_append, Option.mem_def.mp head])

theorem cutsShort_class {lone : Bool} (tree : ClassTree) : CutsShort (Class lone · tree ·) := by
  obtain ⟨channel, content⟩ := tree
  rintro text rest ⟨run⟩
  obtain ⟨front, rfl, short⟩ :=
    (cutsShort_run content).comp (.single channel.closing) _ _ ⟨_, run, rfl⟩
  refine ⟨channel.opening :: front, rfl, ?_⟩
  intro stop begins
  obtain ⟨_, shorter, rfl⟩ := short stop begins
  exact .closed shorter

theorem cutsShort_state {lone : Bool} (tree : StateTree) : CutsShort (State lone · tree ·) := by
  rintro text rest (⟨reads, nonempty⟩ | ⟨before, charClass, after⟩)
  · obtain ⟨front, rfl, short⟩ := cutsShort_run _ _ _ reads
    exact ⟨front, rfl, fun stop begins => .bare (short stop begins) nonempty⟩
  · obtain ⟨front, rfl, short⟩ :=
      (cutsShort_run _).comp ((cutsShort_class _).comp (cutsShort_run _)) _ _
        ⟨_, before, _, charClass, after⟩
    refine ⟨front, rfl, ?_⟩
    intro stop begins
    obtain ⟨_, before, _, charClass, after⟩ := short stop begins
    exact .varying before charClass after

theorem cutsShort_slot {lone : Bool} (tree : SlotTree) : CutsShort (Slot lone · tree ·) := by
  rintro text rest (⟨reads, nonempty⟩ | reads)
  · obtain ⟨front, rfl, short⟩ := cutsShort_run _ _ _ reads
    exact ⟨front, rfl, fun stop begins => .bare (short stop begins) nonempty⟩
  · obtain ⟨front, rfl, short⟩ := cutsShort_class _ _ _ reads
    exact ⟨front, rfl, fun stop begins => .bracketed (short stop begins)⟩

theorem cutsShort_padded {α : Type} {item : List Char → α → List Char → Prop} {tree : α}
    (short : CutsShort (item · tree ·)) : CutsShort (Padded item · tree ·) := by
  rintro text rest ⟨start, stop, before, reads, after⟩
  obtain ⟨front, rfl, shorter⟩ := cutsShort_blanks.comp (short.comp cutsShort_blanks) _ _
    ⟨_, before, _, reads, after⟩
  refine ⟨front, rfl, ?_⟩
  intro stop begins
  obtain ⟨_, before, _, reads, after⟩ := shorter stop begins
  exact ⟨_, _, before, reads, after⟩

/-- The first four fields of a line, each with the comma behind it. -/
def BeforeMove (lone : Bool) (tree : LineTree) : List Char → List Char → Prop :=
  Comp (Comp (Padded (State lone) · tree.startState ·) (Single ','))
    (Comp (Comp (Padded (Slot lone) · tree.startSymbol ·) (Single ','))
      (Comp (Comp (Padded (State lone) · tree.destState ·) (Single ','))
        (Comp (Padded (Slot lone) · tree.destSymbol ·) (Single ','))))

theorem cutsShort_beforeMove {lone : Bool} (tree : LineTree) :
    CutsShort (BeforeMove lone tree) := by
  have comma := CutsShort.single ','
  have state (field : StateTree) := (cutsShort_padded (@cutsShort_state lone field)).comp comma
  have slot (field : SlotTree) := (cutsShort_padded (@cutsShort_slot lone field)).comp comma
  exact (state _).comp ((slot _).comp ((state _).comp (slot _)))

theorem fields_iff {lone : Bool} {tree : LineTree} {text rest : List Char} :
    Fields lone text tree rest ↔
      Comp (BeforeMove lone tree) (Padded (Slot lone) · tree.move ·) text rest := by
  constructor
  · rintro ⟨startState, startSymbol, destState, destSymbol, move⟩
    exact ⟨_, ⟨_, ⟨_, startState, rfl⟩, _, ⟨_, startSymbol, rfl⟩, _, ⟨_, destState, rfl⟩,
      _, destSymbol, rfl⟩, move⟩
  · rintro ⟨_, ⟨_, ⟨_, startState, rfl⟩, _, ⟨_, startSymbol, rfl⟩, _, ⟨_, destState, rfl⟩,
      _, destSymbol, rfl⟩, move⟩
    exact .separated startState startSymbol destState destSymbol move

theorem cutsShort_fields {lone : Bool} (tree : LineTree) : CutsShort (Fields lone · tree ·) := by
  intro text rest reads
  obtain ⟨front, same, short⟩ := (cutsShort_beforeMove tree).comp
    (cutsShort_padded (cutsShort_slot tree.move)) _ _ (fields_iff.mp reads)
  exact ⟨front, same, fun stop begins => fields_iff.mpr (short stop begins)⟩

theorem ends_of_cutShort {marker : Char} {text stop : List Char} (ends : Ends marker text)
    (begins : stop <+: text) : Ends marker stop := by
  obtain ⟨rest, ⟨blanks, rfl, all, first⟩, ended⟩ := ends
  obtain ⟨back, cut⟩ := begins
  rcases List.append_eq_append_iff.mp cut with ⟨more, rfl, -⟩ | ⟨front, rfl, split⟩
  -- Cut among the blanks, or behind them.
  · refine ⟨[], ⟨stop, (List.append_nil stop).symm, ?_, nofun⟩, .inl rfl⟩
    exact fun c member => all c (List.mem_append_left more member)
  · refine ⟨front, ⟨blanks, rfl, all, ?_⟩, ?_⟩
    · intro c head
      exact first c (by simp [split, List.head?_append, Option.mem_def.mp head])
    · rcases front with _ | ⟨c, front⟩
      · exact .inl rfl
      · rcases ended with rfl | ⟨comment, rfl⟩
        · cases split
        · cases split
          exact .inr ⟨front, rfl⟩

/-! ### The last character of a line -/

theorem spelling_concat (run : List Atom) (atom : Atom) :
    ∃ front, spelling (run ++ [atom]) = front ++ [atom.char] := by
  cases atom with
  | plain c => exact ⟨spelling run, by simp [spelling, Atom.spelling, Atom.char]⟩
  | escaped c => exact ⟨spelling run ++ ['\\'], by simp [spelling, Atom.spelling, Atom.char]⟩

/-- A symbol or a move at the very end of a text. Its last character is a blank or a delimiter,
unless it is a run. -/
theorem last_of_padded_slot {text : List Char} {tree : SlotTree}
    (reads : Padded (Slot true) text tree []) :
    ∃ front c, text = front ++ [c] ∧
      (¬ Ordinary c ∨ ∃ run, tree = .bare run ∧ ∃ atom ∈ run, atom.char = c) := by
  obtain ⟨start, stop, before, slot, after⟩ := reads
  obtain ⟨blanks, rfl, -⟩ := before
  obtain ⟨behind, same, all, -⟩ := after
  rw [List.append_nil] at same
  subst same
  rcases stop.eq_nil_or_concat' with rfl | ⟨others, c, rfl⟩
  · cases slot with
    | @bare _ run reads nonempty =>
      have spelled := scanRun_append start
      rw [scanRun_of_run reads, List.append_nil] at spelled
      rcases run.eq_nil_or_concat' with rfl | ⟨others, atom, rfl⟩
      · exact absurd rfl nonempty
      · obtain ⟨front, ending⟩ := spelling_concat others atom
        refine ⟨blanks ++ front, atom.char, ?_, .inr ⟨_, rfl, atom, by simp, rfl⟩⟩
        rw [← spelled, ending, List.append_assoc]
    | @bracketed _ tree reads =>
      obtain ⟨channel, content⟩ := tree
      obtain ⟨run⟩ := reads
      obtain ⟨front, rfl, -⟩ := cutsShort_run _ _ _ run
      refine ⟨blanks ++ channel.opening :: front, channel.closing, by simp, .inl ?_⟩
      cases channel <;> decide
  · obtain ⟨front, rfl, -⟩ := cutsShort_slot _ _ _ slot
    refine ⟨blanks ++ (front ++ others), c, by simp, .inl ?_⟩
    rcases all c (by simp) with rfl | rfl <;> decide

/-- The last character of a line can go, unless it gives structure or belongs to a bare move. -/
theorem line_of_concat {marker c : Char} {text : List Char} {tree : LineTree}
    (line : Line true marker (text ++ [c]) tree) (ordinary : Ordinary c)
    (apart : ∀ run, tree.move = .bare run → ∀ atom ∈ run, atom.char ≠ c) :
    Line true marker text tree := by
  generalize whole : text ++ [c] = longer at line
  cases line with
  | bare blanks fields ends =>
    subst whole
    have reads := cutsShort_blanks.comp (@cutsShort_fields true tree)
    rcases reads.concat_cases ⟨_, blanks, fields⟩ with rfl | ⟨stop, rfl, _, blanks, fields⟩
    -- Nothing stands behind the move, so that the line ends with it.
    · obtain ⟨_, before, move⟩ := fields_iff.mp fields
      obtain ⟨others, d, rfl, ending⟩ := last_of_padded_slot move
      have front := cutsShort_blanks.comp (@cutsShort_beforeMove true tree)
      rcases front.concat_cases ⟨_, blanks, before⟩ with empty | ⟨stop, same, -⟩
      · simp at empty
      · obtain ⟨-, last⟩ := List.append_inj' same rfl
        cases last
        rcases ending with structural | ⟨run, bare, atom, member, spelled⟩
        · exact absurd ordinary structural
        · exact absurd spelled (apart run bare atom member)
    · exact .bare blanks fields (ends_of_cutShort ends (List.prefix_append stop [c]))
  | parenthesized blanks fields ends =>
    subst whole
    have reads := cutsShort_blanks.comp ((CutsShort.single '(').comp (@cutsShort_fields true tree))
    rcases reads.concat_cases ⟨_, blanks, _, rfl, fields⟩ with
      empty | ⟨_ | ⟨closing, stop⟩, same, _, before, _, rfl, shorter⟩
    · cases empty
    -- The last character would have to be the closing parenthesis.
    · cases same
      exact absurd ordinary (by decide)
    · cases same
      exact .parenthesized before shorter (ends_of_cutShort ends (List.prefix_append stop [c]))

/-- No field of a rule ends with a carriage return at the end of its line. -/
theorem line_of_concat_return {marker : Char} {text : List Char} {tree : LineTree}
    (line : Line true marker (text ++ ['\r']) tree) (admissible : tree.Admissible) :
    Line true marker text tree := by
  apply line_of_concat line (by decide)
  intro run bare atom member spelled
  obtain ⟨direction, glyph⟩ := admissible.glyph_of_bare bare atom member
  rw [spelled] at glyph
  cases direction <;> simp [Direction.glyph] at glyph

end Grammar

/-! ### Reading a line without its carriage return -/

namespace Dialect

open Grammar

variable {dialect : Dialect} {number : Nat} {line : List Char}

theorem fold_concat_return (dialect : Dialect) (line : List Char) :
    dialect.fold (String.ofList (line ++ ['\r'])) =
      dialect.fold (String.ofList line) ++ ['\r'] := by
  have kept : Text.upperCaseAll ['\r'] = ['\r'] := by decide
  cases folds : dialect.ignoreCase <;> simp [fold, folds, kept]

theorem skips_concat_return (dialect : Dialect) (text : List Char) :
    dialect.skips (text ++ ['\r']) = dialect.skips text := by
  have white : Text.isWhiteSpace '\r' = true := by decide
  cases text <;> simp [skips, white]

theorem template_of_concat_return {template : RuleTemplate}
    (made : dialect.template number (String.ofList (line ++ ['\r'])) = .ok template)
    (faultless : template.outcome.fault? = none) :
    dialect.template number (String.ofList line) = .ok template := by
  obtain ⟨texts, cut, made⟩ := bind_eq_ok_iff.mp made
  -- Fields that make a template are all there, and are those of a rule line.
  obtain ⟨a, b, c, d, e, rfl⟩ := complete_of_template made
  obtain ⟨tree, reads, spells⟩ := exists_line cut
  rw [← spells] at made
  have admissible := (expands_iff_admissible reads number).mp ⟨template, made, faultless⟩
  rw [fold_concat_return] at reads
  exact bind_eq_ok_iff.mpr
    ⟨tree.texts, readFields_of_line (line_of_concat_return reads admissible), made⟩

/-- A carriage return at the end of a line makes no difference, unless it makes a fault. -/
theorem readLine_concat_return
    (faultless : (dialect.readLine number (String.ofList (line ++ ['\r']))).fault? = none) :
    dialect.readLine number (String.ofList line) =
      dialect.readLine number (String.ofList (line ++ ['\r'])) := by
  rw [readLine_eq] at faultless
  rw [readLine_eq, readLine_eq, fold_concat_return, skips_concat_return]
  split
  · rfl
  next holds =>
    rw [fold_concat_return, skips_concat_return, if_neg holds] at faultless
    cases made : dialect.template number (String.ofList (line ++ ['\r'])) with
    | error fault =>
      rw [made] at faultless
      cases faultless
    | ok template =>
      rw [made] at faultless
      rw [template_of_concat_return made faultless]

/-- Dropping the carriage return of a line that is read without a fault. The line is given last
character first. -/
theorem readLine_dropReturn
    (faultless : (dialect.readLine number (String.ofList line.reverse)).fault? = none) :
    dialect.readLine number (String.ofList (Text.dropReturn line).reverse) =
      dialect.readLine number (String.ofList line.reverse) := by
  simp only [Text.dropReturn]
  split
  next shorter =>
    rw [List.reverse_cons] at faultless ⊢
    exact readLine_concat_return faultless
  next => rfl

end Dialect
end TuringScript
