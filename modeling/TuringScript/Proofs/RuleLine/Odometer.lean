import Mathlib.Logic.Function.Basic
import TuringScript.Proofs.CharClass.Remaining
import TuringScript.RuleLine.Expansion

/-!
# The odometer

The counter that expands a rule template runs through all pairs of positions, one for each channel,
the square channel turning faster. Its `k`-th combination has the square classes at the remainder
and the curly ones at the quotient of `k` by the span of the square channel.
-/
namespace TuringScript

/-! ### Fields -/

namespace RuleFields

variable {α β γ : Type}

theorem map_map (g : β → γ) (f : α → β) (fields : RuleFields α) :
    (fields.map f).map g = fields.map (g ∘ f) := by
  rcases fields with ⟨_ | _, _, _ | _, _, _⟩ <;> rfl

theorem map_congr {f g : α → β} {fields : RuleFields α} (same : ∀ a ∈ fields.toList, f a = g a) :
    fields.map f = fields.map g := by
  rcases fields with ⟨_ | _, _, _ | _, _, _⟩ <;>
    simp_all [map, StateField.map, toList, StateField.toList]

end RuleFields

/-! ### Sizes that agree -/

theorem all_eq_first_iff (sizes : List Nat) :
    (match sizes with
      | [] => true
      | size :: sizes => sizes.all (· == size)) = true ↔ ∀ a ∈ sizes, ∀ b ∈ sizes, a = b := by
  cases sizes with
  | nil => simp
  | cons size sizes =>
    simp only [List.all_eq_true, beq_iff_eq, List.mem_cons]
    constructor
    · rintro equal a (rfl | ha) b (rfl | hb)
      · rfl
      · exact (equal b hb).symm
      · exact equal a ha
      · exact (equal a ha).trans (equal b hb).symm
    · intro equal a member
      exact equal a (Or.inr member) size (Or.inl rfl)

theorem RuleFields.mem_sizesIn (fields : RuleFields CharClass) (channel : Channel) (size : Nat) :
    size ∈ fields.sizesIn channel ↔
      ∃ c ∈ fields.toList, c.channel = some channel ∧ c.size ≠ 1 ∧ c.size = size := by
  simp [sizesIn, and_assoc]

/-- Two classes of one channel have the same size, unless one of them is constant. -/
theorem RuleFields.sizesAgree_iff (fields : RuleFields CharClass) :
    fields.sizesAgree = true ↔ ∀ c ∈ fields.toList, ∀ d ∈ fields.toList,
      c.channel ≠ none → c.channel = d.channel → c.size ≠ 1 → d.size ≠ 1 → c.size = d.size := by
  unfold sizesAgree
  rw [List.all_eq_true]
  constructor
  · intro agree c hc d hd bracketed same hcs hds
    obtain ⟨channel, hchannel⟩ := Option.ne_none_iff_exists'.mp bracketed
    have listed : channel ∈ Channel.all := by cases channel <;> simp [Channel.all]
    have equal := (all_eq_first_iff (fields.sizesIn channel)).mp (agree channel listed)
    exact equal c.size ((fields.mem_sizesIn _ _).mpr ⟨c, hc, hchannel, hcs, rfl⟩)
      d.size ((fields.mem_sizesIn _ _).mpr ⟨d, hd, same ▸ hchannel, hds, rfl⟩)
  -- Comparing all sizes with the first one compares any two.
  · intro agree channel _
    refine (all_eq_first_iff (fields.sizesIn channel)).mpr ?_
    intro a ha b hb
    obtain ⟨c, hc, hcc, hcs, rfl⟩ := (fields.mem_sizesIn _ _).mp ha
    obtain ⟨d, hd, hdc, hds, rfl⟩ := (fields.mem_sizesIn _ _).mp hb
    exact agree c hc d hd (by simp [hcc]) (hcc.trans hdc.symm) hcs hds

theorem CharClass.counts_iff (channel : Channel) (charClass : CharClass) :
    charClass.counts channel = true ↔ charClass.channel = some channel ∧ 1 < charClass.size := by
  simp [counts]

/-- The number of positions of a channel: the size of its counting classes, or one. -/
def RuleFields.span (fields : RuleFields CharClass) (channel : Channel) : Nat :=
  ((fields.toList.find? (·.counts channel)).map CharClass.size).getD 1

theorem RuleFields.span_pos (fields : RuleFields CharClass) (channel : Channel) :
    0 < fields.span channel := by
  unfold span
  cases found : fields.toList.find? (·.counts channel) with
  | none => exact Nat.one_pos
  | some charClass =>
    have counting := List.find?_some found
    rw [CharClass.counts_iff] at counting
    exact Nat.lt_of_succ_lt counting.2

theorem RuleFields.size_eq_span {fields : RuleFields CharClass} (agree : fields.sizesAgree = true)
    {channel : Channel} {charClass : CharClass} (member : charClass ∈ fields.toList)
    (counting : charClass.counts channel = true) : charClass.size = fields.span channel := by
  obtain ⟨other, found⟩ := Option.isSome_iff_exists.mp
    (List.find?_isSome.mpr ⟨charClass, member, counting⟩)
  have counts := List.find?_some found
  rw [CharClass.counts_iff] at counting counts
  rw [span, found]
  exact (sizesAgree_iff fields).mp agree charClass member other (List.mem_of_find?_eq_some found)
    (by simp [counting.1]) (counting.1.trans counts.1.symm) (by omega) (by omega)

theorem RuleFields.span_eq_one {fields : RuleFields CharClass} {channel : Channel}
    (constant : ∀ c ∈ fields.toList, c.counts channel = false) : fields.span channel = 1 := by
  have absent : fields.toList.find? (·.counts channel) = none := by
    simpa [List.find?_eq_none] using constant
  rw [span, absent]
  rfl

/-! ### Positions -/

/-- The position of a class when every channel has one. Constants stay at their only place. -/
def CharClass.position (positions : Channel → Nat) (charClass : CharClass) : Nat :=
  match charClass.channel with
  | none => 0
  | some channel => if 1 < charClass.size then positions channel else 0

theorem CharClass.position_of_counts {channel : Channel} {charClass : CharClass}
    (counting : charClass.counts channel = true) (positions : Channel → Nat) :
    charClass.position positions = positions channel := by
  rw [counts_iff] at counting
  simp only [position, counting.1, if_pos counting.2]

theorem CharClass.position_update_of_not_counts {channel : Channel} {charClass : CharClass}
    (apart : charClass.counts channel = false) (positions : Channel → Nat) (value : Nat) :
    charClass.position (Function.update positions channel value) =
      charClass.position positions := by
  unfold position
  cases bracket : charClass.channel with
  | none => rfl
  | some other =>
    by_cases same : other = channel
    · subst same
      have constant : ¬ 1 < charClass.size := by simpa [counts, bracket] using apart
      simp only [if_neg constant]
    · simp only [Function.update_of_ne same]

/-- The cursors of all fields when every channel has a position. -/
def RuleFields.place (fields : RuleFields CharClass) (positions : Channel → Nat) :
    RuleFields ClassCursor :=
  fields.map fun c => ClassCursor.seek c (c.position positions)

namespace Expansion

open Function (update)

variable {fields : RuleFields CharClass} {positions : Channel → Nat} (channel : Channel)

theorem isPending_seek (charClass : CharClass) (count : Nat) :
    isPending channel (ClassCursor.seek charClass count) =
      (charClass.counts channel && decide (count < charClass.size)) := by
  simp [isPending, ClassCursor.atEnd_seek, ← decide_not]

theorem advanceChannel_place (agree : fields.sizesAgree = true)
    (inside : positions channel < fields.span channel) :
    advanceChannel channel (fields.place positions) =
      fields.place (update positions channel (positions channel + 1)) := by
  unfold advanceChannel RuleFields.place
  rw [RuleFields.map_map]
  apply RuleFields.map_congr
  intro c member
  simp only [Function.comp_apply, isPending_seek]
  cases counting : c.counts channel with
  -- A counting class is as long as the span, so it is not at its end yet.
  | true =>
    have size := RuleFields.size_eq_span agree member counting
    rw [CharClass.position_of_counts counting, CharClass.position_of_counts counting]
    simp [size, inside, ClassCursor.next_seek]
  | false => simp [CharClass.position_update_of_not_counts counting]

/-- A channel can move if another position of it is left. -/
theorem canAdvance_place (agree : fields.sizesAgree = true)
    (inside : positions channel < fields.span channel) :
    canAdvance channel (fields.place positions) =
      decide (positions channel + 1 < fields.span channel) := by
  unfold canAdvance RuleFields.place
  rw [RuleFields.toList_map, List.any_map, Bool.eq_iff_iff, List.any_eq_true, decide_eq_true_iff]
  constructor
  · rintro ⟨c, member, moves⟩
    simp only [Function.comp_apply, isPending_seek, ClassCursor.advance, ClassCursor.next_seek,
      ClassCursor.atEnd_seek, Bool.and_eq_true, Bool.not_eq_true', decide_eq_false_iff_not] at moves
    obtain ⟨⟨counting, _⟩, more⟩ := moves
    rw [CharClass.position_of_counts counting,
      RuleFields.size_eq_span agree member counting] at more
    omega
  · intro more
    obtain ⟨c, member, counting⟩ : ∃ c ∈ fields.toList, c.counts channel = true := by
      by_contra none
      have constant : ∀ c ∈ fields.toList, c.counts channel = false := by simpa using none
      rw [RuleFields.span_eq_one constant] at more
      omega
    refine ⟨c, member, ?_⟩
    have size := RuleFields.size_eq_span agree member counting
    simp only [Function.comp_apply, isPending_seek, ClassCursor.advance, ClassCursor.next_seek,
      ClassCursor.atEnd_seek, CharClass.position_of_counts counting, counting, size]
    simp [inside, more]

theorem resetChannel_place (agree : fields.sizesAgree = true)
    (outside : fields.span channel ≤ positions channel) :
    resetChannel (fields.place positions) channel = fields.place (update positions channel 0) := by
  unfold resetChannel RuleFields.place
  rw [RuleFields.map_map]
  apply RuleFields.map_congr
  intro c member
  simp only [Function.comp_apply, ClassCursor.source_seek, ClassCursor.atEnd_seek]
  cases counting : c.counts channel with
  | true =>
    have size := RuleFields.size_eq_span agree member counting
    rw [CharClass.position_of_counts counting, CharClass.position_of_counts counting]
    simp [size, outside, ClassCursor.reset_seek]
  | false => simp [CharClass.position_update_of_not_counts counting]

/-! ### One turn -/

/-- The positions of the `k`-th combination when the square channel has `span` positions. -/
def digits (span k : Nat) : Channel → Nat
  | .square => k % span
  | .curly => k / span

theorem digits_mul_add {span low : Nat} (inside : low < span) (high : Nat) :
    digits span (span * high + low) .square = low ∧
    digits span (span * high + low) .curly = high := by
  constructor
  · simp only [digits]
    rw [Nat.mul_add_mod, Nat.mod_eq_of_lt inside]
  · simp only [digits]
    rw [Nat.mul_add_div (Nat.zero_lt_of_lt inside), Nat.div_eq_of_lt inside, Nat.add_zero]

theorem succ_eq_mul_of_eq {span k : Nat} (last : k % span + 1 = span) :
    k + 1 = span * (k / span + 1) := by
  have whole := Nat.div_add_mod k span
  rw [Nat.mul_succ]
  omega

/-- Without a carry the next number is below the product as well. -/
theorem succ_lt_mul_of_lt {span total k : Nat} (inside : k < span * total)
    (more : k % span + 1 < span) : k + 1 < span * total := by
  have whole := Nat.div_add_mod k span
  have higher := Nat.mul_le_mul_left span (Nat.succ_le_of_lt (Nat.div_lt_of_lt_mul inside))
  rw [Nat.mul_succ] at higher
  omega

/-- With a carry it is so exactly if the higher digit can move. -/
theorem succ_lt_mul_iff_of_eq {span total k : Nat} (last : k % span + 1 = span) :
    k + 1 < span * total ↔ k / span + 1 < total := by
  rw [succ_eq_mul_of_eq last]
  exact Nat.mul_lt_mul_left (by omega)

/-- The square channel moves on. -/
theorem digits_succ_of_lt {span k : Nat} (more : k % span + 1 < span) :
    update (digits span k) .square (k % span + 1) = digits span (k + 1) := by
  have whole : k + 1 = span * (k / span) + (k % span + 1) := by
    rw [← Nat.add_assoc, Nat.div_add_mod]
  obtain ⟨low, high⟩ := digits_mul_add more (k / span)
  rw [← whole] at low high
  funext channel
  cases channel with
  | square => rw [low, Function.update_self]
  | curly =>
    rw [high, Function.update_of_ne (by decide)]
    rfl

/-- The square channel starts again and the curly one moves on. -/
theorem digits_succ_of_eq {span k : Nat} (last : k % span + 1 = span) :
    update (update (update (digits span k) .square (k % span + 1)) .curly (k / span + 1))
      .square 0 = digits span (k + 1) := by
  have whole : k + 1 = span * (k / span + 1) + 0 := succ_eq_mul_of_eq last
  obtain ⟨low, high⟩ := digits_mul_add (show 0 < span by omega) (k / span + 1)
  rw [← whole] at low high
  funext channel
  cases channel with
  | square => rw [low, Function.update_self]
  | curly => rw [high, Function.update_of_ne (by decide), Function.update_self]

/-- In every combination a class that is not empty stands at one of its alternatives. -/
theorem position_digits_lt (agree : fields.sizesAgree = true) {charClass : CharClass}
    (member : charClass ∈ fields.toList) (inhabited : charClass.size ≠ 0) {k : Nat}
    (inside : k < fields.span .square * fields.span .curly) :
    charClass.position (digits (fields.span .square) k) < charClass.size := by
  unfold CharClass.position
  cases bracket : charClass.channel with
  | none => exact Nat.pos_of_ne_zero inhabited
  | some channel =>
    dsimp only
    split
    next several =>
      have counting := (CharClass.counts_iff channel _).mpr ⟨bracket, several⟩
      rw [RuleFields.size_eq_span agree member counting]
      cases channel with
      | square => exact Nat.mod_lt k (fields.span_pos .square)
      | curly => exact Nat.div_lt_of_lt_mul inside
    next => exact Nat.pos_of_ne_zero inhabited

/-- In some combination a class stands at any given one of its alternatives. -/
theorem exists_position_digits (agree : fields.sizesAgree = true) {charClass : CharClass}
    (member : charClass ∈ fields.toList) (single : charClass.channel = none → charClass.size = 1)
    {index : Nat} (inside : index < charClass.size) :
    ∃ k < fields.span .square * fields.span .curly,
      charClass.position (digits (fields.span .square) k) = index := by
  have squares := fields.span_pos .square
  have curlies := fields.span_pos .curly
  by_cases several : 1 < charClass.size
  · cases bracket : charClass.channel with
    | none => exact absurd (single bracket) (by omega)
    | some channel =>
      have counting := (CharClass.counts_iff channel _).mpr ⟨bracket, several⟩
      rw [RuleFields.size_eq_span agree member counting] at inside
      simp only [CharClass.position_of_counts counting]
      cases channel with
      | square =>
        refine ⟨index, Nat.lt_of_lt_of_le inside (Nat.le_mul_of_pos_right _ curlies), ?_⟩
        exact Nat.mod_eq_of_lt inside
      | curly =>
        refine ⟨fields.span .square * index, Nat.mul_lt_mul_of_pos_left inside squares, ?_⟩
        exact Nat.mul_div_cancel_left index squares
  · refine ⟨0, Nat.mul_pos squares curlies, ?_⟩
    have first : index = 0 := by omega
    unfold CharClass.position
    cases charClass.channel <;> simp [several, first]

theorem carry_all (cursors : RuleFields ClassCursor) :
    carry [] cursors Channel.all =
      if canAdvance .square cursors then some (advanceChannel .square cursors)
      else if canAdvance .curly (advanceChannel .square cursors) then
        some (resetChannel (advanceChannel .curly (advanceChannel .square cursors)) .square)
      else none := rfl

/-- Turning the odometer goes from one combination to the next, and fails at the last one. -/
theorem carry_place_digits (agree : fields.sizesAgree = true) {k : Nat}
    (inside : k < fields.span .square * fields.span .curly) :
    carry [] (fields.place (digits (fields.span .square) k)) Channel.all =
      if k + 1 < fields.span .square * fields.span .curly then
        some (fields.place (digits (fields.span .square) (k + 1)))
      else none := by
  generalize span : fields.span .square = squares at *
  have below : k % squares < squares := Nat.mod_lt k (span ▸ fields.span_pos .square)
  have low : digits squares k .square < fields.span .square := span ▸ below
  have high : k / squares < fields.span .curly := Nat.div_lt_of_lt_mul inside
  have turned (value : Nat) : update (digits squares k) .square value .curly = k / squares :=
    Function.update_of_ne (by decide) ..
  rw [carry_all, canAdvance_place .square agree low, advanceChannel_place .square agree low]
  rw [canAdvance_place .curly agree (by rwa [turned]),
    advanceChannel_place .curly agree (by rwa [turned]), turned, span,
    show digits squares k .square = k % squares from rfl]
  -- Without a carry only the square digit changes.
  by_cases more : k % squares + 1 < squares
  · rw [if_pos (decide_eq_true more), if_pos (succ_lt_mul_of_lt inside more)]
    exact congrArg (some <| fields.place ·) (digits_succ_of_lt more)
  · have last : k % squares + 1 = squares := by omega
    rw [if_neg (by simpa using more)]
    -- With a carry the square channel is at its end; it starts again if the curly one can move.
    by_cases carries : k / squares + 1 < fields.span .curly
    · have bound := (succ_lt_mul_iff_of_eq last).mpr carries
      rw [if_pos (decide_eq_true carries), if_pos bound, resetChannel_place .square agree]
      · exact congrArg (some <| fields.place ·) (digits_succ_of_eq last)
      · rw [Function.update_of_ne (by decide), Function.update_self, span]
        exact Nat.le_of_eq last.symm
    · have bound := mt (succ_lt_mul_iff_of_eq last).mp carries
      rw [if_neg (by simpa using carries), if_neg bound]

end Expansion
end TuringScript
