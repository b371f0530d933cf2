import TuringScript.Text.UpperCase
import TuringScript.Text.WhiteSpace

/-!
# Visible upper case

Folding a character to upper case either leaves it alone or puts another character in front, and one
that can be seen: no character becomes white space.
-/
namespace TuringScript.Text

/-! ### White space -/

/-- First and last codes of the stretches of white space. -/
def whiteSpaceStretches : List (Nat × Nat) :=
  [(9, 13), (0x20, 0x20), (0x85, 0x85), (0xA0, 0xA0), (0x1680, 0x1680), (0x2000, 0x200A),
    (0x2028, 0x2029), (0x202F, 0x202F), (0x205F, 0x205F), (0x3000, 0x3000)]

theorem isWhiteSpace_iff (c : Char) :
    isWhiteSpace c = true ↔
      ∃ stretch ∈ whiteSpaceStretches, stretch.1 ≤ c.toNat ∧ c.toNat ≤ stretch.2 := by
  simp only [isWhiteSpace, whiteSpaceStretches, Bool.or_eq_true, Bool.and_eq_true,
    decide_eq_true_eq, beq_iff_eq, List.mem_cons, List.not_mem_nil, or_false, exists_eq_or_imp,
    exists_eq_left]
  omega

/-! ### The tables -/

/-- An expansion begins with a visible character that is not the one expanded. -/
theorem head_of_mem_caseExpansions :
    ∀ entry ∈ caseExpansions, ∃ first ∈ entry.2.head?,
      (Char.ofNat first).toNat ≠ entry.1 ∧ isWhiteSpace (Char.ofNat first) = false := by
  decide +kernel

theorem offset_ne_zero : ∀ run ∈ caseRuns, run.offset ≠ 0 := by decide +kernel

/-- No run of letters is moved onto a stretch of white space. -/
theorem image_apart :
    ∀ run ∈ caseRuns, ∀ stretch ∈ whiteSpaceStretches,
      (run.last : Int) + run.offset < stretch.1 ∨ (stretch.2 : Int) < run.first + run.offset := by
  decide +kernel

/-- A number that is no code point stands for the null character. -/
theorem toNat_ofNat_cases (code : Nat) :
    (Char.ofNat code).toNat = code ∨ (Char.ofNat code).toNat = 0 := by
  by_cases valid : code.isValidChar
  · left
    rw [Char.ofNat, dif_pos valid]
    rfl
  · right
    rw [Char.ofNat, dif_neg valid]
    rfl

/-- A run that is moved past a stretch of codes, to either side, has no letter moved into it. -/
theorem image_outside {run : CaseRun} {stretch : Nat × Nat} (positive : 0 < stretch.1)
    (apart : (run.last : Int) + run.offset < stretch.1 ∨ (stretch.2 : Int) < run.first + run.offset)
    {code : Nat} (covered : run.covers code = true) :
    ¬ (stretch.1 ≤ (Char.ofNat (run.image code)).toNat ∧
      (Char.ofNat (run.image code)).toNat ≤ stretch.2) := by
  rintro ⟨first, last⟩
  simp only [CaseRun.covers, Bool.and_eq_true, decide_eq_true_eq] at covered
  -- The image of a code lies within the image of its run, or is cut off at zero.
  rcases toNat_ofNat_cases (run.image code) with same | null
  · rw [same, CaseRun.image] at first last
    omega
  · omega

theorem isWhiteSpace_image {run : CaseRun} (listed : run ∈ caseRuns) {code : Nat}
    (covered : run.covers code = true) :
    isWhiteSpace (Char.ofNat (run.image code)) = false := by
  rw [← Bool.not_eq_true, isWhiteSpace_iff]
  rintro ⟨stretch, member, inside⟩
  have positive : ∀ stretch ∈ whiteSpaceStretches, 0 < stretch.1 := by decide
  exact image_outside (positive stretch member) (image_apart run listed stretch member) covered
    inside

theorem image_ne {run : CaseRun} (listed : run ∈ caseRuns) {c : Char} (wide : 128 ≤ c.toNat) :
    Char.ofNat (run.image c.toNat) ≠ c := by
  intro same
  have moves := offset_ne_zero run listed
  have code := congrArg Char.toNat same
  rcases toNat_ofNat_cases (run.image c.toNat) with kept | null
  · rw [kept, CaseRun.image] at code
    omega
  · omega

theorem toUpper_cases : ∀ code < 128, (Char.ofNat code).toUpper = Char.ofNat code ∨
    isWhiteSpace (Char.ofNat code).toUpper = false := by
  decide

/-! ### The mapping -/

/-- Which of the ways to be mapped a character takes. -/
theorem upperCase_forms (c : Char) :
    (c.toNat < 128 ∧ upperCase c = [c.toUpper]) ∨
    (∃ codes, (c.toNat, codes) ∈ caseExpansions ∧ upperCase c = codes.map Char.ofNat) ∨
    (128 ≤ c.toNat ∧ ∃ run ∈ caseRuns, run.covers c.toNat = true ∧
      upperCase c = [Char.ofNat (run.image c.toNat)]) ∨
    upperCase c = [c] := by
  unfold upperCase
  split
  next narrow => exact .inl ⟨narrow, rfl⟩
  next wide =>
    split
    next codes found =>
      obtain ⟨front, back, table, -⟩ := List.lookup_eq_some_iff.mp found
      exact .inr (.inl ⟨codes, by simp [table], rfl⟩)
    next =>
      split
      next run found =>
        have covered := List.find?_some found
        exact .inr (.inr (.inl
          ⟨Nat.not_lt.mp wide, run, List.mem_of_find?_eq_some found, covered, rfl⟩))
      next => exact .inr (.inr (.inr rfl))

/-- A character is its own upper case, or its upper case begins with another, visible character. -/
theorem upperCase_cases (c : Char) :
    upperCase c = [c] ∨ ∃ first ∈ (upperCase c).head?, first ≠ c ∧ isWhiteSpace first = false := by
  rcases upperCase_forms c with
    ⟨narrow, form⟩ | ⟨codes, listed, form⟩ | ⟨wide, run, listed, covered, form⟩ | form
  · have folded := toUpper_cases c.toNat narrow
    rw [Char.ofNat_toNat] at folded
    rw [form]
    by_cases kept : c.toUpper = c
    · exact .inl (by rw [kept])
    · exact .inr ⟨c.toUpper, rfl, kept, folded.resolve_left kept⟩
  · obtain ⟨first, head, apart, visible⟩ := head_of_mem_caseExpansions _ listed
    refine .inr ⟨Char.ofNat first, ?_, ?_, visible⟩
    · rw [form, List.head?_map, head]
      rfl
    · rintro rfl
      exact apart rfl
  · rw [form]
    exact .inr ⟨_, rfl, image_ne listed wide, isWhiteSpace_image listed covered⟩
  · exact .inl form

theorem upperCase_ne_nil (c : Char) : upperCase c ≠ [] := by
  intro empty
  rcases upperCase_cases c with kept | ⟨first, head, -⟩
  · simp [kept] at empty
  · simp [empty] at head

end TuringScript.Text
