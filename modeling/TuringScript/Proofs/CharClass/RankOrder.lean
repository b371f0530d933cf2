import Mathlib.Data.Finset.Card
import TuringScript.Proofs.CharClass.Complement
import TuringScript.Proofs.CharClass.Iteration

/-!
# The order of a complement

A walk through a negated class reads the characters of the alphabet that its content does not spell,
each of them once and in rank order. Repetitions in the content, and characters that have no rank,
make no difference to their number.
-/
namespace TuringScript

namespace Alphabet

/-- Both characters have a rank, and that of the first one is lower. -/
def Precedes (left right : Char) : Prop :=
  ∃ low high, rank? left = some low ∧ rank? right = some high ∧ low < high

theorem rank?_getElem {rank : Nat} (inside : rank < chars.length) :
    rank? chars[rank] = some rank := by
  rw [rank?, List.idxOf?_eq_some_iff]
  refine ⟨inside, rfl, fun lower below same => ?_⟩
  -- The same character at a lower rank would be a repetition.
  exact Nat.ne_of_lt below ((List.Nodup.getElem_inj_iff chars_nodup).mp same)

theorem pairwise_precedes : chars.Pairwise Precedes := by
  rw [List.pairwise_iff_getElem]
  intro low high inside inside' below
  exact ⟨low, high, rank?_getElem inside, rank?_getElem inside', below⟩

end Alphabet

namespace CharClass

instance (charClass : CharClass) : DecidablePred charClass.YieldsChar :=
  fun c => decidable_of_iff _ (yieldsChar_iff charClass c).symm

/-- The alphabet without the characters that a class yields. -/
def leftOut (charClass : CharClass) : List Char :=
  Alphabet.chars.filter fun c => ¬ charClass.YieldsChar c

theorem length_leftOut (charClass : CharClass) :
    charClass.leftOut.length +
      Finset.card {c ∈ Alphabet.chars.toFinset | charClass.YieldsChar c} = Alphabet.size := by
  have distinct : charClass.leftOut.Nodup := Alphabet.chars_nodup.filter _
  have members : charClass.leftOut.toFinset =
      {c ∈ Alphabet.chars.toFinset | ¬ charClass.YieldsChar c} := by
    rw [leftOut, List.toFinset_filter]
    simp only [decide_eq_true_eq]
  -- Without repetitions, the lengths of both lists are numbers of characters.
  rw [← List.toFinset_card_of_nodup distinct, members, Nat.add_comm,
    Finset.card_filter_add_card_filter_not, List.toFinset_card_of_nodup Alphabet.chars_nodup,
    Alphabet.size]

theorem alternatives_negated (channel : Channel) {content : List Char}
    (plain : content.head? ≠ some '^') :
    (bracketed channel ('^' :: content)).alternatives.map Alternative.char =
      (bracketed channel content).leftOut := by
  have excluded (c : Char) : c ∉ (contentItems none content).map Alternative.char ↔
      ¬ (bracketed channel content).YieldsChar c := by
    rw [yieldsChar_iff, bracketed_of_plain channel plain, List.mem_map]
    rfl
  simp only [bracketed, alternatives, List.map_map, leftOut, excluded]
  exact List.map_id _

/-- A walk through a negated class reads the characters of the alphabet that the positive class does
not yield, once each and in rank order. Their number is the size of the class and the length of the
walk; together with the characters that the positive class yields they are the whole alphabet. -/
theorem negated_visits_complement_in_order (channel : Channel) (content : List Char)
    (plain : content.head? ≠ some '^') :
    let positive := ofText (bracketText channel content)
    let negated := ofText (bracketText channel ('^' :: content))
    let walk := (ClassCursor.ofClass negated).visits
    (∃ chars : List Char, walk.map ClassCursor.char? = chars.map some ∧
      (∀ c, c ∈ chars ↔ c ∈ Alphabet.chars ∧ ¬ positive.YieldsChar c) ∧
      chars.Pairwise Alphabet.Precedes) ∧
    negated.size + Finset.card {c ∈ Alphabet.chars.toFinset | positive.YieldsChar c} =
      Alphabet.size ∧
    walk.length = negated.size := by
  intro positive negated walk
  have spelled : negated.alternatives.map Alternative.char = positive.leftOut := by
    simp only [positive, negated, ofText_bracketText, alternatives_negated channel plain]
  have size : negated.size = positive.leftOut.length := by
    rw [size_eq_length, ← spelled, List.length_map]
  refine ⟨⟨positive.leftOut, ?_, ?_, ?_⟩, ?_, ClassCursor.length_visits negated⟩
  · exact (ClassCursor.map_char?_visits negated).trans (congrArg _ spelled)
  · intro c
    simp [leftOut]
  · exact Alphabet.pairwise_precedes.filter _
  · rw [size]
    exact length_leftOut positive

/-- The content has a reversed range and one that chains to it, a character without a rank and a
repetition. It spells four characters, of which three have a rank. -/
theorem negated_visits_complement_in_order_chained :
    ['9', '.', '.', '0', '.', '.', '2', 'é', '2'].head? ≠ some '^' ∧
    let negated := ofText (bracketText .curly ['^', '9', '.', '.', '0', '.', '.', '2', 'é', '2'])
    negated.size = 63 ∧ (ClassCursor.ofClass negated).visits.length = 63 := by
  have plain : ['9', '.', '.', '0', '.', '.', '2', 'é', '2'].head? ≠ some '^' := by decide
  obtain ⟨-, sizes, walked⟩ := negated_visits_complement_in_order .curly _ plain
  have yielded : Finset.card {c ∈ Alphabet.chars.toFinset |
      (ofText (bracketText .curly ['9', '.', '.', '0', '.', '.', '2', 'é', '2'])).YieldsChar c} =
        3 := by
    decide +kernel
  rw [yielded, Alphabet.size_eq] at sizes
  have size : _ = 63 := Nat.add_right_cancel sizes
  exact ⟨plain, size, walked.trans size⟩

end CharClass
end TuringScript
