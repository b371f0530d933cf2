import TuringScript.CharClass.Reader

/-!
# Ranges

A range adds the characters ranked above its lower bound and up to its upper one, in rank order.
-/
namespace TuringScript

namespace Alphabet

/-- The characters ranked above `low` and up to `high`. There are none unless both have a rank. -/
def between (low high : Char) : List Char :=
  match rank? low, rank? high with
  | some first, some last => chars.filter fun c => (rank? c).any fun r => first < r && r ≤ last
  | _, _ => []

end Alphabet

/-- In a list without repetitions the elements in a window of positions are a segment. -/
theorem filter_idxOf? {chars : List Char} (distinct : chars.Nodup) (first last : Nat) :
    chars.filter (fun c => (chars.idxOf? c).any fun r => first ≤ r && r < last) =
      (chars.take last).drop first := by
  induction chars generalizing first last with
  | nil => simp
  | cons d chars ih =>
    obtain ⟨fresh, distinct⟩ := List.nodup_cons.mp distinct
    -- In the tail every position is one less, and so are the bounds of the window.
    have shifted :
        chars.filter (fun c => ((d :: chars).idxOf? c).any fun r => first ≤ r && r < last) =
          (chars.take (last - 1)).drop (first - 1) := by
      rw [← ih distinct]
      apply List.filter_congr
      intro c member
      have other : (d == c) = false := by
        rw [beq_eq_false_iff_ne]
        rintro rfl
        exact fresh member
      rw [List.idxOf?_cons, other]
      cases found : chars.idxOf? c with
      | none => rfl
      | some r =>
        have low : first ≤ r + 1 ↔ first - 1 ≤ r := by omega
        have high : r + 1 < last ↔ r < last - 1 := by omega
        simp only [Bool.false_eq_true, if_false, Option.map_some, Option.any_some, low, high]
    rw [List.filter_cons, shifted, List.idxOf?_cons]
    cases last with
    | zero => simp
    | succ last => cases first <;> simp

namespace CharClass

theorem rangeItems_eq (low high : Char) :
    rangeItems low high = (Alphabet.between low high).map (⟨·, true⟩) := by
  unfold rangeItems Alphabet.between
  cases Alphabet.rank? low with
  | none => rfl
  | some first =>
    cases Alphabet.rank? high with
    | none => rfl
    | some last =>
      have segment := filter_idxOf? Alphabet.chars_nodup (first + 1) (last + 1)
      simp only [← segment, Nat.succ_le_iff, Nat.lt_succ_iff]
      rfl

end CharClass
end TuringScript
