import TuringScript.Proofs.RuleLine.Denotation

/-!
# An escape at the end of a line

The two variants of the grammar differ only in lines whose last field is a bare move with an escape
at its end.
-/
namespace TuringScript.Grammar

theorem beginsAtom_lenient {text : List Char} (begins : BeginsAtom false text) :
    BeginsAtom true text := by
  cases begins with
  | escaped c text => exact .escaped c text
  | plain c text ordinary => exact .plain c text ordinary
  | last => exact .last rfl

theorem beginsAtom_strict {text : List Char} (begins : BeginsAtom true text)
    (visible : text ≠ ['\\']) : BeginsAtom false text := by
  cases begins with
  | escaped c text => exact .escaped c text
  | plain c text ordinary => exact .plain c text ordinary
  | last => exact absurd rfl visible

theorem run_strict {text rest : List Char} {run : List Atom} (reads : Run true text run rest)
    (regular : ∀ atom ∈ run, atom.Regular) : Run false text run rest := by
  induction reads with
  | done maximal => exact .done fun begins => maximal (beginsAtom_lenient begins)
  | escaped _ ih => exact .escaped (ih fun atom member => regular atom (.tail _ member))
  | plain ordinary _ ih =>
    exact .plain ordinary (ih fun atom member => regular atom (.tail _ member))
  | last => exact absurd rfl (regular _ (.head _))

theorem run_lenient {text rest : List Char} {run : List Atom} (reads : Run false text run rest)
    (visible : rest ≠ ['\\']) : Run true text run rest := by
  induction reads with
  | done maximal => exact .done fun begins => maximal (beginsAtom_strict begins visible)
  | escaped _ ih => exact .escaped (ih visible)
  | plain ordinary _ ih => exact .plain ordinary (ih visible)
  | last counts => cases counts

theorem run_iff {text rest : List Char} {run : List Atom} {c : Char} (visible : c ≠ '\\') :
    Run true text run (c :: rest) ↔ Run false text run (c :: rest) := by
  constructor
  · intro reads
    exact run_strict reads (regular_of_run reads)
  · intro reads
    exact run_lenient reads (by simp [visible])

theorem class_iff {text rest : List Char} {tree : ClassTree} :
    Class true text tree rest ↔ Class false text tree rest := by
  have visible (channel : Channel) : channel.closing ≠ '\\' := by cases channel <;> decide
  constructor
  · rintro ⟨run⟩
    exact .closed ((run_iff (visible _)).mp run)
  · rintro ⟨run⟩
    exact .closed ((run_iff (visible _)).mpr run)

/-- What blanks and a comma follow is not an escape at the end of the line. -/
theorem exists_cons_of_comma {stop after : List Char} (follows : Blanks stop (',' :: after)) :
    ∃ c rest, stop = c :: rest ∧ c ≠ '\\' := by
  obtain ⟨blanks, rfl, all, -⟩ := follows
  rcases blanks with _ | ⟨c, blanks⟩
  · exact ⟨',', after, rfl, by decide⟩
  · refine ⟨c, _, rfl, ?_⟩
    rcases all c (.head _) with rfl | rfl <;> decide

theorem state_iff {text stop after : List Char} {tree : StateTree}
    (follows : Blanks stop (',' :: after)) :
    State true text tree stop ↔ State false text tree stop := by
  obtain ⟨c, rest, rfl, visible⟩ := exists_cons_of_comma follows
  have opening (channel : Channel) : channel.opening ≠ '\\' := by cases channel <;> decide
  constructor
  · rintro (⟨reads, nonempty⟩ | ⟨before, charClass, behind⟩)
    · exact .bare ((run_iff visible).mp reads) nonempty
    · have strict := class_iff.mp charClass
      obtain ⟨_⟩ := charClass
      exact .varying ((run_iff (opening _)).mp before) strict ((run_iff visible).mp behind)
  · rintro (⟨reads, nonempty⟩ | ⟨before, charClass, behind⟩)
    · exact .bare ((run_iff visible).mpr reads) nonempty
    · have lenient := class_iff.mpr charClass
      obtain ⟨_⟩ := charClass
      exact .varying ((run_iff (opening _)).mpr before) lenient ((run_iff visible).mpr behind)

theorem slot_strict {text rest : List Char} {tree : SlotTree} (reads : Slot true text tree rest)
    (regular : ∀ run, tree = .bare run → ∀ atom ∈ run, atom.Regular) :
    Slot false text tree rest := by
  cases reads with
  | bare run nonempty => exact .bare (run_strict run (regular _ rfl)) nonempty
  | bracketed charClass => exact .bracketed (class_iff.mp charClass)

theorem slot_lenient {text rest : List Char} {tree : SlotTree} (reads : Slot false text tree rest)
    (visible : rest ≠ ['\\']) : Slot true text tree rest := by
  cases reads with
  | bare run nonempty => exact .bare (run_lenient run visible) nonempty
  | bracketed charClass => exact .bracketed (class_iff.mpr charClass)

theorem slot_iff {text stop after : List Char} {tree : SlotTree}
    (follows : Blanks stop (',' :: after)) :
    Slot true text tree stop ↔ Slot false text tree stop := by
  obtain ⟨c, rest, rfl, visible⟩ := exists_cons_of_comma follows
  constructor
  · rintro (⟨reads, nonempty⟩ | ⟨charClass⟩)
    · exact .bare ((run_iff visible).mp reads) nonempty
    · exact .bracketed (class_iff.mp charClass)
  · intro reads
    exact slot_lenient reads (by simp [visible])

/-! ### Lines -/

theorem padded_congr {α : Type} {item other : List Char → α → List Char → Prop}
    {text rest : List Char} {tree : α}
    (same : ∀ start stop, Blanks stop rest → (item start tree stop ↔ other start tree stop)) :
    Padded item text tree rest ↔ Padded other text tree rest := by
  constructor
  · rintro ⟨start, stop, before, reads, behind⟩
    exact ⟨start, stop, before, (same start stop behind).mp reads, behind⟩
  · rintro ⟨start, stop, before, reads, behind⟩
    exact ⟨start, stop, before, (same start stop behind).mpr reads, behind⟩

theorem padded_state_iff {text after : List Char} {tree : StateTree} :
    Padded (State true) text tree (',' :: after) ↔ Padded (State false) text tree (',' :: after) :=
  padded_congr fun _ _ => state_iff

theorem padded_slot_iff {text after : List Char} {tree : SlotTree} :
    Padded (Slot true) text tree (',' :: after) ↔ Padded (Slot false) text tree (',' :: after) :=
  padded_congr fun _ _ => slot_iff

theorem fields_strict {text rest : List Char} {tree : LineTree}
    (fields : Fields true text tree rest)
    (regular : ∀ run, tree.move = .bare run → ∀ atom ∈ run, atom.Regular) :
    Fields false text tree rest := by
  obtain ⟨a, b, c, d, ⟨start, stop, before, reads, behind⟩⟩ := fields
  exact .separated (padded_state_iff.mp a) (padded_slot_iff.mp b) (padded_state_iff.mp c)
    (padded_slot_iff.mp d) ⟨start, stop, before, slot_strict reads regular, behind⟩

theorem fields_lenient {text rest : List Char} {tree : LineTree}
    (fields : Fields false text tree rest)
    (visible : ∀ stop, Blanks stop rest → stop ≠ ['\\']) : Fields true text tree rest := by
  obtain ⟨a, b, c, d, ⟨start, stop, before, reads, behind⟩⟩ := fields
  exact .separated (padded_state_iff.mpr a) (padded_slot_iff.mpr b) (padded_state_iff.mpr c)
    (padded_slot_iff.mpr d) ⟨start, stop, before, slot_lenient reads (visible stop behind), behind⟩

theorem line_strict {marker : Char} {text : List Char} {tree : LineTree}
    (line : Line true marker text tree)
    (regular : ∀ run, tree.move = .bare run → ∀ atom ∈ run, atom.Regular) :
    Line false marker text tree := by
  cases line with
  | bare blanks fields ends => exact .bare blanks (fields_strict fields regular) ends
  | parenthesized blanks fields ends =>
    exact .parenthesized blanks (fields_strict fields regular) ends

theorem eq_of_blanks_escape {rest : List Char} (blanks : Blanks ['\\'] rest) : rest = ['\\'] :=
  ((blanks_iff _ _).mp blanks).symm

theorem line_lenient {marker : Char} {text : List Char} {tree : LineTree}
    (line : Line false marker text tree) (other : marker ≠ '\\') : Line true marker text tree := by
  cases line with
  | bare blanks fields ends =>
    refine .bare blanks (fields_lenient fields ?_) ends
    -- An escape left over after the fields would have to begin a comment.
    rintro stop behind rfl
    obtain rfl := eq_of_blanks_escape behind
    obtain ⟨after, behind, ended⟩ := ends
    obtain rfl := eq_of_blanks_escape behind
    rcases ended with ended | ⟨comment, ended⟩
    · cases ended
    · cases ended
      exact other rfl
  | parenthesized blanks fields ends =>
    refine .parenthesized blanks (fields_lenient fields ?_) ends
    -- Between the fields and the closing parenthesis there are only blanks.
    rintro stop behind rfl
    cases eq_of_blanks_escape behind

end TuringScript.Grammar
