import TuringScript.Proofs.RuleLine.CommentMarker
import TuringScript.Proofs.RuleLine.Printing

/-!
# Folding a rule line

A line is folded one character at a time. The blanks, the escape and the characters that give a line
its structure are their own upper case, and no other character has one of them in its upper case. So
a run of atoms is folded to a run of atoms, and the structure of a line stays.
-/
namespace TuringScript

/-! ### Characters -/

namespace Text

open Grammar

/-- First and last codes of the stretches of characters that are not ordinary. -/
def structureStretches : List (Nat × Nat) :=
  [(0x09, 0x09), (0x20, 0x20), (0x28, 0x29), (0x2C, 0x2C), (0x5B, 0x5D), (0x7B, 0x7B),
    (0x7D, 0x7D)]

/-- The characters that are not ordinary. -/
theorem cases_of_not_ordinary {c : Char} (special : ¬ Ordinary c) :
    c = ' ' ∨ c = '\t' ∨ c = '\\' ∨ c = '(' ∨ c = ')' ∨ c = ',' ∨ c = '[' ∨ c = ']' ∨ c = '{' ∨
      c = '}' := by
  simpa only [Ordinary, not_not, List.mem_cons, List.not_mem_nil, or_false] using special

theorem ordinary_of_outside {c : Char}
    (outside : ∀ stretch ∈ structureStretches, ¬ (stretch.1 ≤ c.toNat ∧ c.toNat ≤ stretch.2)) :
    Ordinary c := by
  by_contra special
  rcases cases_of_not_ordinary special with
    rfl | rfl | rfl | rfl | rfl | rfl | rfl | rfl | rfl | rfl <;>
  exact absurd outside (by decide)

theorem ordinary_of_mem_caseExpansions :
    ∀ entry ∈ caseExpansions, ∀ code ∈ entry.2, Ordinary (Char.ofNat code) := by
  decide +kernel

/-- No run of letters is moved onto a character that is not ordinary. -/
theorem image_apart_structure :
    ∀ run ∈ caseRuns, ∀ stretch ∈ structureStretches,
      (run.last : Int) + run.offset < stretch.1 ∨ (stretch.2 : Int) < run.first + run.offset := by
  decide +kernel

theorem ordinary_toUpper : ∀ code < 128, Ordinary (Char.ofNat code) →
    Ordinary (Char.ofNat code).toUpper := by
  decide

theorem upperCase_of_not_ordinary {c : Char} (special : ¬ Ordinary c) : upperCase c = [c] := by
  rcases cases_of_not_ordinary special with
    rfl | rfl | rfl | rfl | rfl | rfl | rfl | rfl | rfl | rfl <;>
  decide

theorem ordinary_of_mem_upperCase {c d : Char} (ordinary : Ordinary c) (member : d ∈ upperCase c) :
    Ordinary d := by
  rcases upperCase_forms c with
    ⟨narrow, form⟩ | ⟨codes, listed, form⟩ | ⟨-, run, listed, covered, form⟩ | form
  · have folded := ordinary_toUpper c.toNat narrow
    rw [Char.ofNat_toNat] at folded
    rw [form, List.mem_singleton] at member
    rw [member]
    exact folded ordinary
  · rw [form, List.mem_map] at member
    obtain ⟨code, member, rfl⟩ := member
    exact ordinary_of_mem_caseExpansions _ listed code member
  · rw [form, List.mem_singleton] at member
    rw [member]
    apply ordinary_of_outside
    intro stretch within
    have positive : ∀ stretch ∈ structureStretches, 0 < stretch.1 := by decide
    exact image_outside (positive stretch within) (image_apart_structure run listed stretch within)
      covered
  · rw [form, List.mem_singleton] at member
    rwa [member]

end Text

/-! ### Texts -/

namespace Dialect

open Grammar

variable (dialect : Dialect)

def foldChar (c : Char) : List Char := if dialect.ignoreCase then Text.upperCase c else [c]

/-- A line is folded one character at a time. -/
theorem fold_eq_flatMap (line : String) :
    dialect.fold line = line.toList.flatMap dialect.foldChar := by
  cases folds : dialect.ignoreCase with
  | false =>
    have each : dialect.foldChar = fun c => [c] := by
      funext c
      simp [foldChar, folds]
    simp [fold, folds, each]
  | true =>
    have each : dialect.foldChar = Text.upperCase := by
      funext c
      simp [foldChar, folds]
    simp [fold, folds, each, Text.upperCaseAll]

theorem keepsMarker_iff :
    dialect.KeepsMarker ↔ dialect.foldChar dialect.commentMarker = [dialect.commentMarker] := by
  cases folds : dialect.ignoreCase <;> simp [KeepsMarker, foldChar, folds]

theorem foldChar_ne_nil (c : Char) : dialect.foldChar c ≠ [] := by
  unfold foldChar
  split
  · exact Text.upperCase_ne_nil c
  · exact List.cons_ne_nil c []

theorem foldChar_of_not_ordinary {c : Char} (special : ¬ Ordinary c) :
    dialect.foldChar c = [c] := by
  simp [foldChar, Text.upperCase_of_not_ordinary special]

theorem ordinary_of_mem_foldChar {c d : Char} (ordinary : Ordinary c)
    (member : d ∈ dialect.foldChar c) : Ordinary d := by
  unfold foldChar at member
  split at member
  · exact Text.ordinary_of_mem_upperCase ordinary member
  · rwa [List.mem_singleton.mp member]

end Dialect

/-! ### Runs -/

namespace Grammar

open Printing

/-- What an atom is folded to. If the upper case is several characters, the escape protects the
first one only, and the others stand for themselves. -/
def Atom.fold (dialect : Dialect) : Atom → List Atom
  | .plain c => (dialect.foldChar c).map .plain
  | .escaped c =>
    match dialect.foldChar c with
    | [] => []
    | first :: others => .escaped first :: others.map .plain

variable (dialect : Dialect)

theorem spelling_map_plain (text : List Char) : spelling (text.map .plain) = text := by
  simp [spelling, List.flatMap_map, Atom.spelling]

theorem spelling_fold (atom : Atom) :
    spelling (atom.fold dialect) = atom.spelling.flatMap dialect.foldChar := by
  cases atom with
  | plain c => simp [Atom.fold, Atom.spelling, spelling_map_plain]
  | escaped c =>
    have escape : dialect.foldChar '\\' = ['\\'] :=
      dialect.foldChar_of_not_ordinary (by decide)
    cases folded : dialect.foldChar c with
    | nil => exact absurd folded (dialect.foldChar_ne_nil c)
    | cons first others =>
      have others_eq := spelling_map_plain others
      simp only [spelling] at others_eq
      simp [Atom.fold, Atom.spelling, spelling, escape, folded, others_eq]

theorem solid_fold {atom : Atom} (solid : Solid atom) :
    ∀ folded ∈ atom.fold dialect, Solid folded := by
  intro folded member
  cases atom with
  | plain c =>
    obtain ⟨d, inside, rfl⟩ := List.mem_map.mp member
    exact dialect.ordinary_of_mem_foldChar solid inside
  | escaped c =>
    cases upper : dialect.foldChar c with
    | nil => exact absurd upper (dialect.foldChar_ne_nil c)
    | cons first others =>
      simp only [Atom.fold, upper, List.mem_cons, List.mem_map] at member
      rcases member with rfl | ⟨d, inside, rfl⟩
      · trivial
      -- Only an ordinary character has more than one character in its upper case.
      · have ordinary : Ordinary c := by
          by_contra special
          rw [dialect.foldChar_of_not_ordinary special] at upper
          cases upper
          cases inside
        exact dialect.ordinary_of_mem_foldChar ordinary (by simp [upper, inside])

theorem map_char_fold (atom : Atom) :
    (atom.fold dialect).map Atom.char = dialect.foldChar atom.char := by
  have plain (text : List Char) : text.map (Atom.char ∘ Atom.plain) = text := List.map_id text
  cases atom with
  | plain c => rw [Atom.fold, List.map_map, plain, Atom.char]
  | escaped c =>
    cases folded : dialect.foldChar c with
    | nil => exact absurd folded (dialect.foldChar_ne_nil c)
    | cons first others =>
      simp only [Atom.fold, folded, List.map_cons, List.map_map, plain, Atom.char]

/-- A run is folded atom by atom. -/
def foldRun (run : List Atom) : List Atom := run.flatMap (Atom.fold dialect)

theorem solid_foldRun {run : List Atom} (solid : ∀ atom ∈ run, Solid atom) :
    ∀ atom ∈ foldRun dialect run, Solid atom := by
  intro folded member
  obtain ⟨atom, listed, member⟩ := List.mem_flatMap.mp member
  exact solid_fold dialect (solid atom listed) folded member

theorem spelling_foldRun (run : List Atom) :
    spelling (foldRun dialect run) = (spelling run).flatMap dialect.foldChar := by
  have each := spelling_fold dialect
  simp only [spelling] at each
  simp only [foldRun, spelling, List.flatMap_assoc, each]

/-- The characters that a run stands for are folded as they would be without escapes. -/
theorem map_char_foldRun (run : List Atom) :
    (foldRun dialect run).map Atom.char = (run.map Atom.char).flatMap dialect.foldChar := by
  simp only [foldRun, List.map_flatMap, List.flatMap_map, map_char_fold]

theorem exists_run_fold {run : List Atom} (solid : ∀ atom ∈ run, Solid atom) :
    ∃ folded, (∀ atom ∈ folded, Solid atom) ∧
      spelling folded = (spelling run).flatMap dialect.foldChar :=
  ⟨foldRun dialect run, solid_foldRun dialect solid, spelling_foldRun dialect run⟩

end Grammar
end TuringScript
