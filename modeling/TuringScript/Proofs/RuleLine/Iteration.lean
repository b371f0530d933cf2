import TuringScript.Proofs.RuleLine.Enumeration

/-!
# Iteration

An enumeration is asked for one item after another. Its items are the combinations in the order of
the odometer, up to the first one that does not read as a rule; the number of combinations stays the
same all along. If a class is empty, the only item is the fault of the first empty field.
-/
namespace TuringScript

/-! ### Fields in order -/

namespace RuleFields

variable {α β : Type}

/-- The slots with the fields they belong to, in the order in which they are written. -/
def labelled (fields : RuleFields α) : List (Field × α) :=
  fields.startState.toList.map (Field.startState, ·) ++
    (Field.startSymbol, fields.startSymbol) ::
      fields.destState.toList.map (Field.destState, ·) ++
        [(Field.destSymbol, fields.destSymbol), (Field.move, fields.move)]

theorem labelled_map (f : α → β) (fields : RuleFields α) :
    (fields.map f).labelled = fields.labelled.map (Prod.map id f) := by
  simp [labelled, map, StateField.toList_map, Function.comp_def]

theorem map_snd_labelled (fields : RuleFields α) : fields.labelled.map Prod.snd = fields.toList := by
  simp [labelled, toList, Function.comp_def]

/-- The first field whose class is empty. -/
def firstEmpty? (fields : RuleFields CharClass) : Option Field :=
  (fields.labelled.find? (·.2.isEmpty)).map Prod.fst

theorem size_ne_zero_of_firstEmpty?_eq_none {fields : RuleFields CharClass}
    (filled : fields.firstEmpty? = none) : ∀ c ∈ fields.toList, c.size ≠ 0 := by
  intro c member
  rw [← map_snd_labelled] at member
  obtain ⟨slot, listed, rfl⟩ := List.mem_map.mp member
  have found := List.find?_eq_none.mp (Option.map_eq_none_iff.mp filled) slot listed
  simpa only [CharClass.isEmpty, beq_iff_eq] using found

/-- A slot without an alternative puts its field at fault, if all the slots before it have one. -/
theorem rule_of_gap {slots : RuleFields (Option Alternative)} {field : Field}
    (gap : (slots.labelled.find? (·.2.isNone)).map Prod.fst = some field) (line : Nat) :
    slots.rule line = .error (.malformed field) := by
  -- Either side stops at the same slot, whichever of the states have one at all.
  rcases slots with ⟨_ | ⟨_, _ | _, _⟩, _ | _, _ | ⟨_, _ | _, _⟩, _ | _, _ | _⟩ <;>
    simp_all [labelled, StateField.toList, rule, StateField.name?, Field.wellFormed, bind,
      Except.bind]

/-! ### Spans and sizes -/

/-- Two classes of one channel have different sizes, and neither is constant. -/
def Mismatched (fields : RuleFields CharClass) : Prop :=
  ∃ c ∈ fields.toList, ∃ d ∈ fields.toList, c.channel ≠ none ∧ c.channel = d.channel ∧
    c.size ≠ 1 ∧ d.size ≠ 1 ∧ c.size ≠ d.size

theorem sizesAgree_eq_false_iff (fields : RuleFields CharClass) :
    fields.sizesAgree = false ↔ fields.Mismatched := by
  rw [← Bool.not_eq_true, sizesAgree_iff, Mismatched]
  simp only [not_forall, exists_prop]

/-- The common size of the classes of a channel that have more than one alternative, or one if there
are none. -/
structure IsSpan (fields : RuleFields CharClass) (channel : Channel) (span : Nat) : Prop where
  size_eq : ∀ c ∈ fields.toList, c.channel = some channel → 1 < c.size → c.size = span
  eq_one : (∀ c ∈ fields.toList, c.channel = some channel → c.size ≤ 1) → span = 1

theorem isSpan_span {fields : RuleFields CharClass} (agree : fields.sizesAgree = true)
    (channel : Channel) : fields.IsSpan channel (fields.span channel) where
  size_eq c member bracket several :=
    size_eq_span agree member ((CharClass.counts_iff channel c).mpr ⟨bracket, several⟩)
  eq_one constant := by
    apply span_eq_one
    intro c member
    rw [← Bool.not_eq_true, CharClass.counts_iff]
    rintro ⟨bracket, several⟩
    exact absurd (constant c member bracket) (Nat.not_le.mpr several)

/-! ### Combinations as rules -/

/-- The rule that five alternatives spell, if the last one is a move. -/
def spelled (choice : RuleFields Alternative) (line : Nat) : Except Fault Rule :=
  match Direction.ofGlyph? choice.move.char with
  | some direction =>
    .ok ⟨⟨choice.startState.name, choice.startSymbol.symbol⟩,
      ⟨choice.destState.name, choice.destSymbol.symbol, direction⟩, line⟩
  | none => .error (.malformed .move)

/-- The alternatives at the `k`-th pair of positions, the square channel turning first. -/
def choiceAt (fields : RuleFields CharClass) (squares k : Nat) : RuleFields Alternative :=
  fields.map (CharClass.pick (Expansion.digits squares k))

theorem ruleAt_eq_spelled {template : RuleTemplate} (agree : template.fields.sizesAgree = true)
    (inhabited : ∀ c ∈ template.fields.toList, c.size ≠ 0) {k : Nat}
    (inside : k < template.fields.span .square * template.fields.span .curly) :
    template.ruleAt k =
      (template.fields.choiceAt (template.fields.span .square) k).spelled template.line := by
  rw [RuleTemplate.ruleAt, combination_eq_map_pick agree inhabited inside]
  exact rule_map_some _ template.line

/-- The first combination is at fault in the first empty field. -/
theorem ruleAt_zero_of_firstEmpty? {template : RuleTemplate} {field : Field}
    (empty : template.fields.firstEmpty? = some field) :
    template.ruleAt 0 = .error (.malformed field) := by
  apply rule_of_gap
  rw [← empty, firstEmpty?, combination, labelled_map, List.find?_map, Option.map_map]
  -- At the first alternative a class has none if it is empty.
  have absent : ((·.2.isNone) ∘ Prod.map id fun c : CharClass =>
      c.alternatives[c.position (Expansion.digits (template.fields.span .square) 0)]?) =
        fun slot : Field × CharClass => slot.2.isEmpty := by
    funext ⟨field, c⟩
    simp only [Function.comp_apply, Prod.map_snd, Expansion.position_digits_zero,
      CharClass.isEmpty, CharClass.size_eq_length]
    cases c.alternatives <;> rfl
  rw [absent]
  rfl

end RuleFields

namespace Expansion

/-! ### One call after another -/

/-- The enumeration after a call for an item. Once it has ended it stays as it is. -/
def afterCall (expansion : Expansion) : Expansion :=
  match expansion.next? with
  | some (_, later) => later
  | none => expansion

def afterCalls (count : Nat) (expansion : Expansion) : Expansion := afterCall^[count] expansion

/-- What a call for an item gives after `k` earlier ones. -/
def item? (expansion : Expansion) (k : Nat) : Option (Except Fault Rule) :=
  (expansion.afterCalls k).next?.map Prod.fst

theorem afterCalls_succ (count : Nat) (expansion : Expansion) :
    expansion.afterCalls (count + 1) = (expansion.afterCalls count).afterCall :=
  Function.iterate_succ_apply' afterCall count expansion

theorem next?_of_finished {expansion : Expansion} (finished : expansion.finished = true) :
    expansion.next? = none := by
  simp only [next?, finished, if_true]

theorem afterCall_of_finished {expansion : Expansion} (finished : expansion.finished = true) :
    expansion.afterCall = expansion := by
  simp only [afterCall, next?_of_finished finished]

/-! ### The number of combinations -/

section Sources

variable (channel : Channel) (cursors : RuleFields ClassCursor)

theorem source_advanceChannel :
    (advanceChannel channel cursors).map ClassCursor.source = cursors.map ClassCursor.source := by
  rw [advanceChannel, RuleFields.map_map]
  apply RuleFields.map_congr
  intro cursor _
  simp only [Function.comp_apply]
  split
  · exact ClassCursor.source_next cursor
  · rfl

theorem source_resetChannel :
    (resetChannel cursors channel).map ClassCursor.source = cursors.map ClassCursor.source := by
  rw [resetChannel, RuleFields.map_map]
  apply RuleFields.map_congr
  intro cursor _
  simp only [Function.comp_apply]
  split
  · exact ClassCursor.source_seek cursor.source 0
  · rfl

theorem source_foldl_resetChannel (lower : List Channel) :
    (lower.foldl resetChannel cursors).map ClassCursor.source =
      cursors.map ClassCursor.source := by
  induction lower generalizing cursors with
  | nil => rfl
  | cons channel lower ih => exact (ih _).trans (source_resetChannel channel cursors)

/-- Turning the odometer moves cursors, each within the class it belongs to. -/
theorem source_carry {lower higher : List Channel} {cursors turned : RuleFields ClassCursor}
    (carries : carry lower cursors higher = some turned) :
    turned.map ClassCursor.source = cursors.map ClassCursor.source := by
  induction higher generalizing lower cursors with
  | nil => cases carries
  | cons channel higher ih =>
    simp only [carry] at carries
    split at carries
    · cases carries
      rw [source_foldl_resetChannel, source_advanceChannel]
    · exact (ih carries).trans (source_advanceChannel channel cursors)

end Sources

theorem source_afterCall (expansion : Expansion) :
    expansion.afterCall.cursors.map ClassCursor.source =
      expansion.cursors.map ClassCursor.source := by
  simp only [afterCall, next?]
  split
  next called =>
    -- An item was given, so the enumeration was still open; only turning changes the cursors.
    split at called
    · cases called
    · split at called
      · cases called
        rfl
      · split at called
        next turned carries =>
          cases called
          exact source_carry carries
        · cases called
          rfl
  · rfl

/-- The number of combinations is that of the template, however far the enumeration has come. -/
theorem combinations_afterCalls (template : RuleTemplate) (count : Nat) :
    ((ofTemplate template).afterCalls count).combinations =
      template.fields.span .square * template.fields.span .curly := by
  have sources : ((ofTemplate template).afterCalls count).cursors.map ClassCursor.source =
      (ofTemplate template).cursors.map ClassCursor.source := by
    induction count with
    | zero => rfl
    | succ count ih => rw [afterCalls_succ, source_afterCall, ih]
  rw [← combinations_ofTemplate]
  simp only [combinations, ← RuleFields.toList_map, sources]

/-! ### The items -/

section Items

variable {template : RuleTemplate}

theorem all_isOk_of_not_exists {count : Nat}
    (faultless : ¬ ∃ j < count, (template.ruleAt j).isOk = false) :
    ∀ j < count, (template.ruleAt j).isOk = true := by
  intro j below
  by_contra fails
  exact faultless ⟨j, below, (Bool.not_eq_true _).mp fails⟩

variable (agree : template.fields.sizesAgree = true)
include agree

/-- As long as combinations read as rules, each call goes on to the next one. -/
theorem afterCalls_ofTemplate {count : Nat}
    (inside : count < template.fields.span .square * template.fields.span .curly)
    (reading : ∀ j < count, (template.ruleAt j).isOk = true) :
    (ofTemplate template).afterCalls count = ofCombination template count := by
  induction count with
  | zero => exact ofTemplate_eq_ofCombination template
  | succ count ih =>
    have before := ih (by omega) fun j below => reading j (by omega)
    have called := next?_ofCombination template agree (show count < _ by omega)
    rw [if_pos ⟨reading count (by omega), inside⟩] at called
    rw [afterCalls_succ, before, afterCall, called]

/-- The enumeration ends behind the last combination, and behind one that is at fault. -/
theorem finished_afterCalls {count : Nat}
    (ended : template.fields.span .square * template.fields.span .curly ≤ count ∨
      ∃ j < count, (template.ruleAt j).isOk = false) :
    ((ofTemplate template).afterCalls count).finished = true := by
  induction count with
  | zero =>
    have positive := Nat.mul_pos (template.fields.span_pos .square) (template.fields.span_pos .curly)
    rcases ended with none | ⟨j, below, -⟩ <;> omega
  | succ count ih =>
    rw [afterCalls_succ]
    by_cases earlier : template.fields.span .square * template.fields.span .curly ≤ count ∨
        ∃ j < count, (template.ruleAt j).isOk = false
    · rw [afterCall_of_finished (ih earlier)]
      exact ih earlier
    -- Otherwise the enumeration has come to the combination with which it ends.
    · obtain ⟨open_, faultless⟩ := not_or.mp earlier
      have inside := Nat.not_le.mp open_
      have reading := all_isOk_of_not_exists faultless
      have here := afterCalls_ofTemplate agree inside reading
      have last : ¬ ((template.ruleAt count).isOk = true ∧
          count + 1 < template.fields.span .square * template.fields.span .curly) := by
        rintro ⟨reads, more⟩
        rcases ended with all | ⟨j, below, fails⟩
        · omega
        · obtain same | less : j = count ∨ j < count := by omega
          · rw [same, reads] at fails
            cases fails
          · exact faultless ⟨j, less, fails⟩
      have called := next?_ofCombination template agree inside
      rw [if_neg last] at called
      rw [here, afterCall, called]

/-- The `k`-th item is the `k`-th combination, if there is one and all those before it read as
rules. -/
theorem item?_ofTemplate (k : Nat) :
    (ofTemplate template).item? k =
      if k < template.fields.span .square * template.fields.span .curly ∧
          ∀ j < k, (template.ruleAt j).isOk = true then
        some (template.ruleAt k)
      else none := by
  split
  next reached =>
    rw [item?, afterCalls_ofTemplate agree reached.1 reached.2,
      next?_ofCombination template agree reached.1]
    rfl
  next missed =>
    have ended : template.fields.span .square * template.fields.span .curly ≤ k ∨
        ∃ j < k, (template.ruleAt j).isOk = false := by
      by_contra going
      obtain ⟨open_, faultless⟩ := not_or.mp going
      exact missed ⟨Nat.not_le.mp open_, all_isOk_of_not_exists faultless⟩
    rw [item?, next?_of_finished (finished_afterCalls agree ended)]
    rfl

/-- The first combination is at fault, so that no other one is reached. -/
theorem item?_of_firstEmpty? {field : Field} (empty : template.fields.firstEmpty? = some field)
    (k : Nat) :
    (ofTemplate template).item? k = if k = 0 then some (.error (.malformed field)) else none := by
  have faulty := RuleFields.ruleAt_zero_of_firstEmpty? empty
  rw [item?_ofTemplate agree]
  cases k with
  | zero =>
    have positive := Nat.mul_pos (template.fields.span_pos .square) (template.fields.span_pos .curly)
    rw [if_pos ⟨positive, nofun⟩, faulty, if_pos rfl]
  | succ k =>
    rw [if_neg, if_neg (Nat.succ_ne_zero k)]
    rintro ⟨-, reading⟩
    have read := reading 0 (Nat.succ_pos k)
    rw [faulty] at read
    cases read

/-- Without empty classes an item is what its alternatives spell. -/
theorem item?_of_inhabited (inhabited : ∀ c ∈ template.fields.toList, c.size ≠ 0) (k : Nat) :
    (ofTemplate template).item? k =
      if k < template.fields.span .square * template.fields.span .curly ∧ ∀ j < k,
          ((template.fields.choiceAt (template.fields.span .square) j).spelled
            template.line).isOk = true then
        some ((template.fields.choiceAt (template.fields.span .square) k).spelled template.line)
      else none := by
  rw [item?_ofTemplate agree]
  by_cases inside : k < template.fields.span .square * template.fields.span .curly
  · have spells (j : Nat) (upTo : j ≤ k) : template.ruleAt j =
        (template.fields.choiceAt (template.fields.span .square) j).spelled template.line :=
      RuleFields.ruleAt_eq_spelled agree inhabited (Nat.lt_of_le_of_lt upTo inside)
    rw [spells k (Nat.le_refl k)]
    refine if_congr (and_congr Iff.rfl ?_) rfl rfl
    refine forall₂_congr fun j below => ?_
    rw [spells j (Nat.le_of_lt below)]
  · rw [if_neg fun reached => inside reached.1, if_neg fun reached => inside reached.1]

end Items

/-- Five fields are expanded unless two classes of a channel have different sizes and neither is
constant. The number of combinations is the product of the two spans, before, between and after the
calls for an item. If a class is empty, the only item is the fault of the first empty field.
Otherwise the `k`-th item is what the alternatives at the `k`-th pair of positions spell, up to the
first pair whose move is none, and every class has an alternative there. -/
theorem ofFields_enumerates (fields : RuleFields CharClass) (line : Nat) :
    (fields.Mismatched → RuleTemplate.ofFields fields line = .error .lengthMismatch) ∧
    (¬ fields.Mismatched → RuleTemplate.ofFields fields line = .ok ⟨fields, line⟩ ∧
      ∃ squares curlies, fields.IsSpan .square squares ∧ fields.IsSpan .curly curlies ∧
        let expansion := ofTemplate ⟨fields, line⟩
        (∀ count, (expansion.afterCalls count).combinations = squares * curlies) ∧
        (∀ field, fields.firstEmpty? = some field → ∀ k,
          expansion.item? k = if k = 0 then some (.error (.malformed field)) else none) ∧
        (fields.firstEmpty? = none →
          (∀ k < squares * curlies, ∀ c ∈ fields.toList,
            c.position (digits squares k) < c.size) ∧
          ∀ k, expansion.item? k =
            if k < squares * curlies ∧
                ∀ j < k, ((fields.choiceAt squares j).spelled line).isOk = true then
              some ((fields.choiceAt squares k).spelled line)
            else none)) := by
  rw [← fields.sizesAgree_eq_false_iff, Bool.not_eq_false]
  constructor
  · intro mismatched
    rw [RuleTemplate.ofFields, mismatched, if_neg Bool.false_ne_true]
  · intro agree
    refine ⟨by rw [RuleTemplate.ofFields, if_pos agree], _, _,
      RuleFields.isSpan_span agree .square, RuleFields.isSpan_span agree .curly, ?_⟩
    refine ⟨combinations_afterCalls ⟨fields, line⟩, ?_, ?_⟩
    · intro field empty
      exact @item?_of_firstEmpty? ⟨fields, line⟩ agree field empty
    · intro filled
      have inhabited := RuleFields.size_ne_zero_of_firstEmpty?_eq_none filled
      constructor
      · intro k inside c member
        exact position_digits_lt agree member (inhabited c member) inside
      · exact @item?_of_inhabited ⟨fields, line⟩ agree inhabited

/-- The square channel turns twice before the curly one comes to a move that is none. -/
def turningTwice : RuleFields CharClass :=
  RuleFields.map CharClass.ofText
    ⟨.varying "Q" ['[', 'A', 'B', ']'] "", ['{', '0', '1', '}'], .literal "R", ['\\', '-'],
      ['{', '>', 'X', '}']⟩

theorem ofFields_enumerates_turningTwice :
    ¬ turningTwice.Mismatched ∧ turningTwice.firstEmpty? = none ∧
    ((ofTemplate ⟨turningTwice, 7⟩).afterCalls 3).combinations = 4 ∧
    (ofTemplate ⟨turningTwice, 7⟩).item? 1 =
      some (.ok ⟨⟨"QB", '0'⟩, ⟨"R", '-', .right⟩, 7⟩) ∧
    (ofTemplate ⟨turningTwice, 7⟩).item? 2 = some (.error (.malformed .move)) ∧
    (ofTemplate ⟨turningTwice, 7⟩).item? 3 = none := by
  have agree : ¬ turningTwice.Mismatched := by
    rw [← RuleFields.sizesAgree_eq_false_iff]
    decide +kernel
  have filled : turningTwice.firstEmpty? = none := by decide +kernel
  obtain ⟨-, squares, curlies, square, curly, combinations, -, enumerates⟩ :=
    (ofFields_enumerates turningTwice 7).2 agree
  obtain ⟨-, items⟩ := enumerates filled
  obtain rfl : 2 = squares :=
    square.size_eq (CharClass.ofText ['[', 'A', 'B', ']']) (by decide +kernel) rfl (by decide)
  obtain rfl : 2 = curlies :=
    curly.size_eq (CharClass.ofText ['{', '0', '1', '}']) (by decide +kernel) rfl (by decide)
  refine ⟨agree, filled, combinations 3, ?_, ?_, ?_⟩
  · rw [items, if_pos (by decide +kernel)]
    rfl
  · rw [items, if_pos (by decide +kernel)]
    rfl
  · rw [items, if_neg (by decide +kernel)]

end Expansion
end TuringScript
