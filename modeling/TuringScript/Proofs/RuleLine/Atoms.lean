import TuringScript.Proofs.RuleLine.Grammar

/-!
# The atoms of a text

Every text is a sequence of atoms. What goes over a text by positions and always takes whole atoms
is described by the atoms between two positions; and a position that is reached in this way is never
that of a character which an escape protects.
-/
namespace TuringScript

/-- The part of a text from one position on up to another. -/
structure Span where
  start : Nat
  stop : Nat
  deriving DecidableEq, Repr

namespace Span

def Within (text : List Char) (span : Span) : Prop :=
  span.start ≤ span.stop ∧ span.stop ≤ text.length

instance (text : List Char) (span : Span) : Decidable (span.Within text) :=
  inferInstanceAs (Decidable (_ ∧ _))

def slice (text : List Char) (span : Span) : List Char := (text.take span.stop).drop span.start

/-- What is between the delimiters at either end of the span. -/
def content (span : Span) : Span := ⟨span.start + 1, span.stop - 1⟩

end Span

namespace Grammar

open RuleLine

/-- The atoms of a text from left to right. An escape takes the character after it along, whatever
it is; an escape that ends the text is an atom on its own. -/
def atomsOf : List Char → List Atom
  | [] => []
  | '\\' :: c :: rest => .escaped c :: atomsOf rest
  | c :: rest => .plain c :: atomsOf rest

theorem atomsOf_plain {c : Char} {rest : List Char} (single : c = '\\' → rest = []) :
    atomsOf (c :: rest) = .plain c :: atomsOf rest := by
  rw [atomsOf]
  rintro d later rfl rfl
  cases single rfl

/-- What begins a text is an atom on its own, or an escape with something after it. -/
theorem single_or_escape (c : Char) (rest : List Char) :
    (c = '\\' → rest = []) ∨ c = '\\' ∧ ∃ d later, rest = d :: later := by
  cases rest with
  | nil => exact .inl fun _ => rfl
  | cons d later =>
    by_cases escape : c = '\\'
    · exact .inr ⟨escape, d, later, rfl⟩
    · exact .inl fun same => absurd same escape

theorem spelling_atomsOf (text : List Char) : spelling (atomsOf text) = text := by
  fun_induction atomsOf text with
  | case1 => rfl
  | case2 c rest ih => exact congrArg ('\\' :: c :: ·) ih
  | case3 c rest single ih => exact congrArg (c :: ·) ih

theorem spelling_append (front back : List Atom) :
    spelling (front ++ back) = spelling front ++ spelling back :=
  List.flatMap_append

/-- An escape is an atom on its own only at the end of the text. -/
theorem eq_nil_of_lone_escape {text : List Char} {front back : List Atom}
    (split : atomsOf text = front ++ .plain '\\' :: back) : back = [] := by
  fun_induction atomsOf text generalizing front with
  | case1 => simp at split
  | case2 c rest ih =>
    cases front with
    | nil => cases split
    | cons atom front => exact ih (List.cons.inj split).2
  | case3 c rest single ih =>
    cases front with
    | cons atom front => exact ih (List.cons.inj split).2
    | nil =>
      obtain ⟨escape, rfl⟩ := List.cons.inj split
      cases rest with
      | nil => rfl
      | cons d later => exact (single d later (Atom.plain.inj escape) rfl).elim

/-- Atoms at the front of a text are the atoms of what they spell. -/
theorem atomsOf_spelling {run : List Atom} {later : List Char}
    (whole : atomsOf (spelling run ++ later) = run ++ atomsOf later) :
    atomsOf (spelling run) = run := by
  induction run with
  | nil => rfl
  | cons atom run ih =>
    rw [spelling, List.flatMap_cons, ← spelling, List.append_assoc] at whole
    rw [spelling, List.flatMap_cons, ← spelling]
    cases atom with
    | escaped c => exact congrArg (.escaped c :: ·) (ih (List.cons.inj whole).2)
    | plain c =>
      rcases single_or_escape c (spelling run ++ later) with single | ⟨rfl, d, more, ahead⟩
      · have alone : c = '\\' → spelling run = [] := fun escape =>
          (List.append_eq_nil_iff.mp (single escape)).1
        have first : atomsOf (c :: (spelling run ++ later)) = _ := atomsOf_plain single
        rw [Atom.spelling, List.singleton_append, first] at whole
        exact (atomsOf_plain alone).trans (congrArg (.plain c :: ·) (ih (List.cons.inj whole).2))
      · -- An escape with something after it would have been another atom.
        rw [ahead] at whole
        cases whole

/-! ### Decoders -/

/-- One character is decoded for each atom. -/
theorem unescape_eq_map (text : List Char) : unescape text = (atomsOf text).map Atom.char := by
  fun_induction atomsOf text with
  | case1 => rfl
  | case2 c rest ih => exact congrArg (c :: ·) ih
  | case3 c rest single ih => rw [unescape, ih, List.map_cons, Atom.char]; exact single

theorem tokenItems_eq_map (text : List Char) :
    CharClass.tokenItems text = (atomsOf text).map Atom.alternative := by
  fun_induction atomsOf text with
  | case1 => rfl
  | case2 c rest ih => exact congrArg (⟨c, true⟩ :: ·) ih
  | case3 c rest single ih =>
    rw [CharClass.tokenItems, ih, List.map_cons, Atom.alternative]; exact single

/-- Both decoders yield the same characters. -/
theorem map_char_tokenItems (text : List Char) :
    (CharClass.tokenItems text).map Alternative.char = unescape text := by
  rw [tokenItems_eq_map, unescape_eq_map, List.map_map]
  apply List.map_congr_left
  intro atom _
  cases atom <;> rfl

/-! ### From one position to another -/

/-- From `start` on, the first atoms of the text are `run`, and they end at `stop`. -/
structure Spells (text : List Char) (start : Nat) (run : List Atom) (stop : Nat) : Prop where
  within : stop ≤ text.length
  reach : start + (spelling run).length = stop
  split : atomsOf (text.drop start) = run ++ atomsOf (text.drop stop)

namespace Spells

variable {text : List Char} {start middle stop : Nat} {run later : List Atom}

theorem refl (within : start ≤ text.length) : Spells text start [] start :=
  ⟨within, rfl, rfl⟩

theorem trans (first : Spells text start run middle) (second : Spells text middle later stop) :
    Spells text start (run ++ later) stop where
  within := second.within
  reach := by
    rw [spelling_append, List.length_append, ← Nat.add_assoc, first.reach, second.reach]
  split := by rw [first.split, second.split, List.append_assoc]

theorem le (spells : Spells text start run stop) : start ≤ stop := by
  rw [← spells.reach]
  exact Nat.le_add_right _ _

theorem drop_eq (spells : Spells text start run stop) :
    text.drop start = spelling run ++ text.drop stop := by
  rw [← spelling_atomsOf (text.drop start), spells.split, spelling_append, spelling_atomsOf]

theorem slice_eq (spells : Spells text start run stop) :
    Span.slice text ⟨start, stop⟩ = spelling run := by
  have length : stop - start = (spelling run).length := by
    rw [← spells.reach, Nat.add_sub_cancel_left]
  rw [Span.slice, List.drop_take, length, spells.drop_eq, List.take_left]

/-- The atoms on the way are those of the text that is cut out. -/
theorem atomsOf_slice (spells : Spells text start run stop) :
    atomsOf (Span.slice text ⟨start, stop⟩) = run := by
  rw [spells.slice_eq]
  apply atomsOf_spelling
  rw [← spells.drop_eq, spells.split]

/-- Before the end of the text no escape is an atom on its own. -/
theorem paired (spells : Spells text start run stop) (inside : stop < text.length) :
    .plain '\\' ∉ run := by
  intro lone
  obtain ⟨front, back, rfl⟩ := List.append_of_mem lone
  have split := spells.split
  rw [List.append_assoc, List.cons_append] at split
  have last : atomsOf (text.drop stop) = [] :=
    (List.append_eq_nil_iff.mp (eq_nil_of_lone_escape split)).2
  have ended : text.drop stop = [] := by rw [← spelling_atomsOf (text.drop stop), last]; rfl
  exact Nat.not_le.mpr inside (List.drop_eq_nil_iff.mp ended)

end Spells

theorem drop_of_getElem? {text : List Char} {position : Nat} {c : Char}
    (found : text[position]? = some c) : text.drop position = c :: text.drop (position + 1) := by
  obtain ⟨inside, rfl⟩ := List.getElem?_eq_some_iff.mp found
  exact List.drop_eq_getElem_cons inside

theorem spells_plain {text : List Char} {position : Nat} {c : Char}
    (found : text[position]? = some c) (single : c = '\\' → text.length ≤ position + 1) :
    Spells text position [.plain c] (position + 1) where
  within := (List.getElem?_eq_some_iff.mp found).1
  reach := rfl
  split := by
    rw [drop_of_getElem? found, atomsOf_plain, List.singleton_append]
    exact fun escape => List.drop_eq_nil_of_le (single escape)

theorem spells_visible {text : List Char} {position : Nat} {c : Char}
    (found : text[position]? = some c) (visible : c ≠ '\\') :
    Spells text position [.plain c] (position + 1) :=
  spells_plain found fun escape => absurd escape visible

theorem spells_escaped {text : List Char} {position : Nat} {c : Char}
    (escape : text[position]? = some '\\') (found : text[position + 1]? = some c) :
    Spells text position [.escaped c] (position + 2) where
  within := (List.getElem?_eq_some_iff.mp found).1
  reach := rfl
  split := by
    rw [drop_of_getElem? escape, drop_of_getElem? found, atomsOf, List.singleton_append]

end Grammar

open Grammar

/-! ### In a whole text -/

/-- In the text the span holds exactly the atoms `run`. -/
def Span.Holds (text : List Char) (span : Span) (run : List Atom) : Prop :=
  ∃ front back, atomsOf text = front ++ run ++ back ∧ span.start = (spelling front).length ∧
    span.stop = (spelling (front ++ run)).length

/-- The position lies between two atoms of the text, or at its start or end. -/
def Between (text : List Char) (position : Nat) : Prop :=
  ∃ front back, atomsOf text = front ++ back ∧ position = (spelling front).length

/-- The character at the position is the one that an escape takes along. -/
def Protected (text : List Char) (position : Nat) : Prop :=
  ∃ front c back, atomsOf text = front ++ .escaped c :: back ∧
    position = (spelling front).length + 1

namespace Grammar.Spells

variable {text : List Char} {start stop : Nat} {before run : List Atom}

theorem between (spells : Spells text 0 run stop) : Between text stop :=
  ⟨run, _, spells.split, by rw [← spells.reach, Nat.zero_add]⟩

theorem holds (reached : Spells text 0 before start) (spells : Spells text start run stop) :
    Span.Holds text ⟨start, stop⟩ run := by
  refine ⟨before, atomsOf (text.drop stop), ?_, ?_, ?_⟩
  · exact (reached.trans spells).split
  · rw [← reached.reach, Nat.zero_add]
  · rw [← (reached.trans spells).reach, Nat.zero_add]

end Grammar.Spells

theorem not_protected_of_between {text : List Char} {position : Nat}
    (between : Between text position) : ¬ Protected text position := by
  obtain ⟨front, rest, split, rfl⟩ := between
  rintro ⟨other, c, back, same, reach⟩
  rw [split] at same
  -- The escape would begin before the position, and end behind it.
  rcases List.append_eq_append_iff.mp same with ⟨more, rfl, -⟩ | ⟨_ | ⟨atom, more⟩, rfl, begins⟩
  · rw [spelling_append, List.length_append] at reach
    omega
  · rw [List.append_nil] at reach
    omega
  · cases begins
    rw [spelling_append, List.length_append] at reach
    simp [spelling, Atom.spelling] at reach

end TuringScript
