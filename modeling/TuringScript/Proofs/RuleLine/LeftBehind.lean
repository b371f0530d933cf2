import TuringScript.Proofs.RuleLine.Acceptance
import TuringScript.Proofs.RuleLine.ScanFaults
import TuringScript.Proofs.Source.Sink

/-!
# What a faulty line leaves behind

Rules go into the sink while their line is still being expanded, so a line that is rejected in the
end may have left some of them there. This happens with one fault only, a move that is none, and
only if the move is a class of several alternatives; then the position of the first alternative that
is not a move tells how many rules are left behind.
-/
namespace TuringScript

/-! ### Up to an error -/

variable {ε α : Type}

theorem eq_map_ok_of_upToError (items : List (Except ε α)) (faultless : (upToError items).2 = none) :
    items = (upToError items).1.map .ok := by
  induction items with
  | nil => rfl
  | cons item rest ih =>
    cases item with
    | error e => cases faultless
    | ok value => exact congrArg (.ok value :: ·) (ih faultless)

theorem eq_append_of_upToError (items : List (Except ε α)) {e : ε}
    (faulty : (upToError items).2 = some e) :
    ∃ later, items = (upToError items).1.map .ok ++ .error e :: later := by
  induction items with
  | nil => cases faulty
  | cons item rest ih =>
    cases item with
    | error other =>
      cases faulty
      exact ⟨rest, rfl⟩
    | ok value =>
      obtain ⟨later, split⟩ := ih faulty
      exact ⟨later, congrArg (.ok value :: ·) split⟩

/-- Of numbered items, those before the first error are the ones with the smaller numbers. -/
theorem exists_upToError_range (item : Nat → Except ε α) (count : Nat) {e : ε}
    (faulty : (upToError ((List.range count).map item)).2 = some e) :
    ∃ k < count, (upToError ((List.range count).map item)).1.map .ok = (List.range k).map item ∧
      item k = .error e := by
  obtain ⟨later, split⟩ := eq_append_of_upToError _ faulty
  obtain ⟨front, back, numbers, before, after⟩ := List.map_eq_append_iff.mp split
  rw [List.range_eq_range', List.range'_eq_append_iff] at numbers
  obtain ⟨k, -, rfl, rfl⟩ := numbers
  obtain ⟨first, rest, stretch, failing, -⟩ := List.map_eq_cons_iff.mp after
  -- The items behind the values begin with the number of the values.
  obtain ⟨rfl, left, -⟩ := List.range'_eq_cons_iff.mp stretch
  exact ⟨k, by omega, by rw [← before, List.range_eq_range'], by simpa using failing⟩

/-! ### Moves -/

def isMoveGlyph (c : Char) : Bool := c == '<' || c == '>' || c == '-'

theorem isMoveGlyph_iff (c : Char) :
    isMoveGlyph c = true ↔ ∃ direction : Direction, c = direction.glyph := by
  constructor
  · intro glyph
    simp only [isMoveGlyph, Bool.or_eq_true, beq_iff_eq] at glyph
    rcases glyph with (rfl | rfl) | rfl
    · exact ⟨.left, rfl⟩
    · exact ⟨.right, rfl⟩
    · exact ⟨.stay, rfl⟩
  · rintro ⟨direction, rfl⟩
    cases direction <;> rfl

/-- The first position at which a class does not offer a move, or its size. -/
def CharClass.firstNonMove (charClass : CharClass) : Nat :=
  charClass.alternatives.findIdx fun alternative => !isMoveGlyph alternative.char

/-! ### Templates of lines -/

namespace RuleTemplate

/-- No class is empty, and within a channel they fit together. -/
structure Ready (template : RuleTemplate) : Prop where
  agree : template.fields.sizesAgree = true
  inhabited : ∀ c ∈ template.fields.toList, c.size ≠ 0

/-- The number of combinations. -/
def total (template : RuleTemplate) : Nat :=
  template.fields.span .square * template.fields.span .curly

theorem total_pos (template : RuleTemplate) : 0 < template.total :=
  Nat.mul_pos (template.fields.span_pos .square) (template.fields.span_pos .curly)

variable {template : RuleTemplate}

/-- A combination reads as a rule of the template's line, unless its move is none. -/
theorem ruleAt_cases (ready : template.Ready) {k : Nat} (inside : k < template.total) :
    (∃ rule, template.ruleAt k = .ok rule ∧ rule.line = template.line) ∨
      template.ruleAt k = .error (.malformed .move) := by
  rw [ruleAt, RuleFields.combination_eq_map_pick ready.agree ready.inhabited inside,
    RuleFields.rule_map_some]
  split
  · exact .inl ⟨_, rfl, rfl⟩
  · exact .inr rfl

/-- An expansion gives all combinations, or those before the first one whose move is none. -/
theorem outcome_cases (ready : template.Ready) :
    (template.outcome.fault? = none ∧
      template.outcome.rules.map .ok = (List.range template.total).map template.ruleAt) ∨
    ∃ k < template.total, template.outcome.fault? = some (.malformed .move) ∧
      template.outcome.rules.map .ok = (List.range k).map template.ruleAt ∧
      template.ruleAt k = .error (.malformed .move) := by
  have expanded : template.outcome = .expanded template.total
      (upToError ((List.range template.total).map template.ruleAt)).1
      (upToError ((List.range template.total).map template.ruleAt)).2 :=
    Expansion.outcome_eq template ready.agree
  rw [expanded]
  simp only [LineOutcome.fault?, LineOutcome.rules]
  cases ends : (upToError ((List.range template.total).map template.ruleAt)).2 with
  | none => exact .inl ⟨rfl, (eq_map_ok_of_upToError _ ends).symm⟩
  | some fault =>
    obtain ⟨k, inside, before, failing⟩ := exists_upToError_range _ _ ends
    -- The only fault of a combination is its move.
    rcases ruleAt_cases ready inside with ⟨rule, read, -⟩ | malformed
    · rw [read] at failing
      cases failing
    · rw [malformed] at failing
      cases failing
      exact .inr ⟨k, inside, rfl, before, malformed⟩

/-- All rules of an expansion are read off combinations. -/
theorem exists_ruleAt_of_mem_outcome (ready : template.Ready) {rule : Rule}
    (member : rule ∈ template.outcome.rules) :
    ∃ k < template.total, template.ruleAt k = .ok rule := by
  have occurs : .ok rule ∈ template.outcome.rules.map (Except.ok (ε := Fault)) :=
    List.mem_map_of_mem member
  rcases outcome_cases ready with ⟨-, all⟩ | ⟨k, inside, -, before, -⟩
  · rw [all] at occurs
    simpa using occurs
  · rw [before] at occurs
    obtain ⟨j, below, read⟩ := List.mem_map.mp occurs
    exact ⟨j, Nat.lt_trans (List.mem_range.mp below) inside, read⟩

/-- All rules of an expansion carry the line of its template. -/
theorem line_of_mem_outcome (ready : template.Ready) {rule : Rule}
    (member : rule ∈ template.outcome.rules) : rule.line = template.line := by
  obtain ⟨k, inside, read⟩ := exists_ruleAt_of_mem_outcome ready member
  rcases ruleAt_cases ready inside with ⟨other, same, line⟩ | malformed
  · rw [same] at read
    cases read
    exact line
  · rw [malformed] at read
    cases read

/-! ### The combination at fault -/

/-- A combination is at fault exactly if its move stands at an alternative that is none. -/
theorem ruleAt_eq_error_iff (ready : template.Ready) {k : Nat} (inside : k < template.total) :
    template.ruleAt k = .error (.malformed .move) ↔
      ∃ alternative ∈ template.fields.move.alternatives[template.fields.move.position
        (Expansion.digits (template.fields.span .square) k)]?,
        isMoveGlyph alternative.char = false := by
  have member : template.fields.move ∈ template.fields.toList := by simp [RuleFields.toList]
  have stands := Expansion.position_digits_lt ready.agree member
    (ready.inhabited _ member) inside
  rw [CharClass.size_eq_length] at stands
  have reads := Grammar.ruleAt_eq_ok_iff ready.agree ready.inhabited inside
  rw [← isMoveGlyph_iff, CharClass.pick, List.getD_eq_getElem _ _ stands] at reads
  simp only [List.getElem?_eq_getElem stands, Option.mem_some_iff, exists_eq_left',
    ← Bool.not_eq_true, ← reads]
  rcases ruleAt_cases ready inside with ⟨rule, read, -⟩ | malformed
  · simp [read]
  · simp [malformed]

/-- The first combination at fault has its move at the first alternative that is none, and no
earlier combination has it there. -/
theorem firstNonMove_spec (ready : template.Ready) {k : Nat} (inside : k < template.total)
    (failing : template.ruleAt k = .error (.malformed .move))
    (reading : ∀ j < k, template.ruleAt j ≠ .error (.malformed .move)) :
    template.fields.move.firstNonMove < template.fields.move.size ∧
      template.fields.move.firstNonMove ≤ template.fields.move.position
        (Expansion.digits (template.fields.span .square) k) ∧
      ∀ n ≤ k, template.fields.move.position (Expansion.digits (template.fields.span .square) n) =
        template.fields.move.firstNonMove → k = n := by
  obtain ⟨alternative, stands, none⟩ := (ruleAt_eq_error_iff ready inside).mp failing
  obtain ⟨bound, rfl⟩ := List.getElem?_eq_some_iff.mp stands
  have found : template.fields.move.firstNonMove ≤ template.fields.move.position
      (Expansion.digits (template.fields.span .square) k) := by
    apply Nat.not_lt.mp
    intro earlier
    simpa [none] using List.not_of_lt_findIdx earlier
  have first : template.fields.move.firstNonMove < template.fields.move.alternatives.length :=
    Nat.lt_of_le_of_lt found bound
  have spells := List.findIdx_getElem (w := first)
  refine ⟨CharClass.size_eq_length _ ▸ first, found, ?_⟩
  intro n atMost reached
  by_contra apart
  apply reading n (by omega)
  apply (ruleAt_eq_error_iff ready (by omega)).mpr
  rw [reached]
  exact ⟨_, List.getElem?_eq_getElem first, (Bool.not_eq_true' _).mp spells⟩

/-- How many combinations share a position of a channel before it moves on. -/
def stride (template : RuleTemplate) : Channel → Nat
  | .square => 1
  | .curly => template.fields.span .square

/-- A constant move fails at once, a move that counts when it first comes to what is no move. -/
theorem eq_of_fails_first (ready : template.Ready) {k : Nat} (inside : k < template.total)
    (failing : template.ruleAt k = .error (.malformed .move))
    (reading : ∀ j < k, template.ruleAt j ≠ .error (.malformed .move)) :
    (template.fields.move.channel = none ∨ template.fields.move.size ≤ 1 → k = 0) ∧
      ∀ channel, template.fields.move.channel = some channel → 1 < template.fields.move.size →
        k = template.fields.move.firstNonMove * template.stride channel := by
  obtain ⟨bound, atMost, unique⟩ := firstNonMove_spec ready inside failing reading
  have member : template.fields.move ∈ template.fields.toList := by simp [RuleFields.toList]
  constructor
  · intro constant
    have rests (n : Nat) : template.fields.move.position
        (Expansion.digits (template.fields.span .square) n) = 0 := by
      simp only [CharClass.position]
      rcases constant with bare | single
      · rw [bare]
      · cases template.fields.move.channel with
        | none => rfl
        | some channel => exact if_neg (Nat.not_lt.mpr single)
    rw [rests] at atMost
    exact unique 0 (Nat.zero_le k) (by rw [rests]; omega)
  · intro channel bracket several
    have counting := (CharClass.counts_iff channel _).mpr ⟨bracket, several⟩
    have positions (n : Nat) := CharClass.position_of_counts counting
      (Expansion.digits (template.fields.span .square) n)
    rw [RuleFields.size_eq_span ready.agree member counting] at bound
    rw [positions] at atMost
    cases channel with
    | square =>
      rw [stride, Nat.mul_one]
      apply unique _ (Nat.le_trans atMost (Nat.mod_le _ _))
      rw [positions]
      exact Nat.mod_eq_of_lt bound
    | curly =>
      have positive := template.fields.span_pos .square
      apply unique _ ((Nat.le_div_iff_mul_le positive).mp atMost)
      rw [positions]
      exact Nat.mul_div_cancel _ positive

end RuleTemplate

/-! ### Lines -/

namespace RuleLine

theorem template?_eq_some {text : FieldText} {charClass : CharClass}
    (made : text.template? = some charClass) :
    charClass = text.charClass ∧ charClass.size ≠ 0 := by
  simp only [FieldText.template?, Option.ite_none_left_eq_some, Option.some.injEq] at made
  obtain ⟨proper, rfl⟩ := made
  exact ⟨rfl, by simp_all [CharClass.isEmpty]⟩

theorem size_of_template?_eq_none {text : FieldText} (made : text.template? = none) :
    text.charClass.channel = none ∨ text.charClass.size ≤ 1 := by
  simp only [FieldText.template?, ite_eq_left_iff, reduceCtorEq, imp_false, not_not,
    Bool.or_eq_true, Bool.and_eq_true, Option.isNone_iff_eq_none] at made
  rcases made with empty | ⟨bare, -⟩
  · right
    have none : text.charClass.size = 0 := by simpa [CharClass.isEmpty] using empty
    omega
  · exact .inl bare

theorem size_ne_zero_of_state {text : StateText} {field : StateField CharClass}
    (made : text.template? = some field) : ∀ c ∈ field.toList, c.size ≠ 0 := by
  rcases text with ⟨front, _ | ⟨varying, back⟩⟩
  · cases made
    simp [StateField.toList]
  · simp only [StateText.template?, Option.ite_none_left_eq_some, Option.some.injEq] at made
    obtain ⟨proper, rfl⟩ := made
    simpa [StateField.toList, CharClass.isEmpty] using proper

/-- A line that makes a template has a move, and the classes of the template fit together. -/
theorem ready_of_template {texts : FieldTexts} {number : Nat} {template : RuleTemplate}
    (made : texts.template number = .ok template) :
    template.Ready ∧ template.line = number ∧
      ∃ move, texts.move = some move ∧ template.fields.move = move.charClass := by
  obtain ⟨a, b, c, d, e, rfl⟩ := Grammar.complete_of_template made
  simp only [FieldTexts.template, Field.present, bind_eq_ok_iff, Grammar.wellFormed_eq_ok_iff,
    Except.ok.injEq, exists_eq_left'] at made
  obtain ⟨a', madeA, b', madeB, c', madeC, d', madeD, e', madeE, made⟩ := made
  simp only [RuleTemplate.ofFields] at made
  split at made
  next agree =>
    cases made
    have proper : ∀ charClass ∈ (RuleFields.mk a' b' c' d' e').toList, charClass.size ≠ 0 := by
      intro charClass member
      simp only [RuleFields.toList, List.mem_append, List.mem_cons, List.not_mem_nil,
        or_false] at member
      rcases member with (inA | rfl | inC) | rfl | rfl
      · exact size_ne_zero_of_state madeA _ inA
      · exact (template?_eq_some madeB).2
      · exact size_ne_zero_of_state madeC _ inC
      · exact (template?_eq_some madeD).2
      · exact (template?_eq_some madeE).2
    exact ⟨⟨agree, proper⟩, rfl, e, rfl, (template?_eq_some madeE).1⟩
  · cases made

theorem wellFormed_eq_error_iff {α : Type} (field : Field) (reading : Option α) (fault : Fault) :
    field.wellFormed reading = .error fault ↔ fault = .malformed field ∧ reading = none := by
  cases reading <;> simp [Field.wellFormed, eq_comm]

/-- A line whose move makes no class has a bare move, or one of at most one alternative. -/
theorem move_of_template_eq_error {texts : FieldTexts} {number : Nat}
    (failed : texts.template number = .error (.malformed .move)) :
    ∃ move, texts.move = some move ∧ (move.charClass.channel = none ∨ move.charClass.size ≤ 1) := by
  rcases texts with ⟨_ | a, _ | b, _ | c, _ | d, _ | e⟩
  case some.some.some.some.some =>
    refine ⟨e, rfl, ?_⟩
    simp only [FieldTexts.template, Field.present, bind_eq_error_iff, wellFormed_eq_error_iff,
      Except.ok.injEq, exists_eq_left', reduceCtorEq, false_or, Fault.malformed.injEq,
      false_and] at failed
    obtain ⟨a', -, b', -, c', -, d', -, ⟨-, unmade⟩ | ⟨e', -, mismatch⟩⟩ := failed
    · exact size_of_template?_eq_none unmade
    -- Sizes that do not agree are a fault of its own.
    · simp only [RuleTemplate.ofFields] at mismatch
      split at mismatch <;> cases mismatch
  all_goals simp [FieldTexts.template, Field.present, bind, Except.bind] at failed

end RuleLine

open RuleLine

/-- What a line leaves behind if its move is at fault. -/
inductive LeftBehind (dialect : Dialect) (number : Nat) (line : String) : List Rule → Prop where
  /-- Nothing, if the move opens a class that is not closed. -/
  | unclosed {fromMove : List Char} (begins : textFromMove (dialect.fold line) = .ok fromMove)
      (unclosed : Unclosed fromMove) : LeftBehind dialect number line []
  /-- Nothing, if the move is bare or has no alternatives or a single one. -/
  | constant {fromMove rest : List Char} {move : FieldText}
      (begins : textFromMove (dialect.fold line) = .ok fromMove)
      (reads : readField .move fromMove = .ok (some move, rest))
      (constant : move.charClass.channel = none ∨ move.charClass.size ≤ 1) :
      LeftBehind dialect number line []
  /-- The combinations before the move comes to its first alternative that is none. -/
  | counting {fromMove rest : List Char} {move : FieldText} {channel : Channel}
      {template : RuleTemplate} {rules : List Rule}
      (begins : textFromMove (dialect.fold line) = .ok fromMove)
      (reads : readField .move fromMove = .ok (some move, rest))
      (bracket : move.charClass.channel = some channel) (several : 1 < move.charClass.size)
      (fails : move.charClass.firstNonMove < move.charClass.size)
      (made : dialect.template number line = .ok template)
      (earlier : rules.map .ok =
        (List.range (move.charClass.firstNonMove * template.stride channel)).map template.ruleAt) :
      LeftBehind dialect number line rules

theorem leftBehind_of_template_eq_error {dialect : Dialect} {number : Nat} {line : String}
    (failed : dialect.template number line = .error (.malformed .move)) :
    LeftBehind dialect number line [] := by
  simp only [Dialect.template, bind_eq_error_iff] at failed
  rcases failed with scanning | ⟨texts, cut, making⟩
  · obtain ⟨fromMove, begins, unclosed⟩ := unclosed_of_readFields scanning
    exact .unclosed begins unclosed
  · obtain ⟨fromMove, rest, begins, reads⟩ := textFromMove_of_readFields cut
    obtain ⟨move, present, constant⟩ := move_of_template_eq_error making
    rw [present] at reads
    exact .constant begins reads constant

theorem leftBehind_of_outcome {dialect : Dialect} {number : Nat} {line : String}
    {template : RuleTemplate} (made : dialect.template number line = .ok template) {k : Nat}
    (inside : k < template.total)
    (earlier : template.outcome.rules.map .ok = (List.range k).map template.ruleAt)
    (failing : template.ruleAt k = .error (.malformed .move)) :
    LeftBehind dialect number line template.outcome.rules := by
  obtain ⟨texts, cut, making⟩ := bind_eq_ok_iff.mp made
  obtain ⟨ready, -, move, present, same⟩ := ready_of_template making
  obtain ⟨fromMove, rest, begins, reads⟩ := textFromMove_of_readFields cut
  rw [present] at reads
  -- Rules were read off the combinations before this one.
  have reading : ∀ j < k, template.ruleAt j ≠ .error (.malformed .move) := by
    intro j below failed
    have listed : template.ruleAt j ∈ template.outcome.rules.map .ok := by
      rw [earlier]
      exact List.mem_map_of_mem (List.mem_range.mpr below)
    obtain ⟨rule, -, read⟩ := List.mem_map.mp listed
    rw [failed] at read
    cases read
  obtain ⟨first, counting⟩ := RuleTemplate.eq_of_fails_first ready inside failing reading
  have fails := (RuleTemplate.firstNonMove_spec ready inside failing reading).1
  rw [same] at first counting fails
  by_cases constant : move.charClass.channel = none ∨ move.charClass.size ≤ 1
  · rw [first constant] at earlier
    rw [List.map_eq_nil_iff.mp earlier]
    exact .constant begins reads constant
  · rw [not_or, Nat.not_le] at constant
    obtain ⟨channel, bracket⟩ := Option.ne_none_iff_exists'.mp constant.1
    rw [counting channel bracket constant.2] at earlier
    exact .counting begins reads bracket constant.2 fails made earlier

/-- The outcomes of a line. -/
theorem Dialect.readLine_cases (dialect : Dialect) (number : Nat) (line : String) :
    ((dialect.readLine number line).fault? = none ∧
      ∀ rule ∈ (dialect.readLine number line).rules, rule.line = number) ∨
    (∃ fault, (dialect.readLine number line).fault? = some fault ∧ fault ≠ .malformed .move ∧
      (dialect.readLine number line).rules = []) ∨
    ((dialect.readLine number line).fault? = some (.malformed .move) ∧
      LeftBehind dialect number line (dialect.readLine number line).rules) := by
  rw [dialect.readLine_eq]
  split
  · exact .inl ⟨rfl, by simp [LineOutcome.rules]⟩
  cases made : dialect.template number line with
  | error fault =>
    by_cases move : fault = .malformed .move
    · subst move
      exact .inr (.inr ⟨rfl, leftBehind_of_template_eq_error made⟩)
    · exact .inr (.inl ⟨fault, rfl, move, rfl⟩)
  | ok template =>
    obtain ⟨texts, -, making⟩ := bind_eq_ok_iff.mp made
    obtain ⟨ready, line_eq, -⟩ := ready_of_template making
    rcases RuleTemplate.outcome_cases ready with ⟨faultless, -⟩ | ⟨k, inside, fault, before, failing⟩
    · exact .inl ⟨faultless, fun rule member =>
        line_eq ▸ RuleTemplate.line_of_mem_outcome ready member⟩
    · exact .inr (.inr ⟨fault, leftBehind_of_outcome made inside before failing⟩)

theorem Dialect.line_of_mem_readLine {dialect : Dialect} {number : Nat} {line : String}
    (faultless : (dialect.readLine number line).fault? = none) {rule : Rule}
    (member : rule ∈ (dialect.readLine number line).rules) : rule.line = number := by
  rcases dialect.readLine_cases number line with ⟨-, all⟩ | ⟨fault, failed, -⟩ | ⟨failed, -⟩
  · exact all rule member
  · exact absurd (faultless.symm.trans failed) nofun
  · exact absurd (faultless.symm.trans failed) nofun

/-- What reading a line does to a sink. If it returns a number, so many rules went into the sink,
all of this line. If it returns an error, the error is of this line, and the sink is as it was
before, unless the move is at fault; what is left behind then depends on the move. -/
theorem Dialect.readOne_into_leaves {τ : Type} (dialect : Dialect) (number : Nat) (line : String)
    (add : τ → Rule → τ) (sink after : τ) (answer : Except ParseError Nat)
    (read : (dialect.readOne number line).into add sink = (answer, after)) :
    (∀ count, answer = .ok count → ∃ rules : List Rule, rules.length = count ∧
      (∀ rule ∈ rules, rule.line = number) ∧ after = rules.foldl add sink) ∧
    ∀ error, answer = .error error → error.line = number ∧
      (error.fault ≠ .malformed .move → after = sink) ∧
      (error.fault = .malformed .move → ∃ rules, LeftBehind dialect number line rules ∧
        after = rules.foldl add sink) := by
  obtain ⟨rfl, rfl⟩ := Prod.mk.inj read
  rw [dialect.result_readOne, dialect.rules_readOne]
  rcases dialect.readLine_cases number line with
    ⟨faultless, ofLine⟩ | ⟨fault, faulty, other, none⟩ | ⟨faulty, left⟩
  · rw [faultless]
    constructor
    · rintro count ⟨⟩
      exact ⟨_, rfl, ofLine, rfl⟩
    · rintro error ⟨⟩
  · rw [faulty, none]
    constructor
    · rintro count ⟨⟩
    · rintro error ⟨⟩
      exact ⟨rfl, fun _ => rfl, fun move => absurd move other⟩
  · rw [faulty]
    constructor
    · rintro count ⟨⟩
    · rintro error ⟨⟩
      exact ⟨rfl, fun other => absurd rfl other, fun _ => ⟨_, left, rfl⟩⟩

/-- The curly move fails in its second position, after both positions of the square state. -/
def halfway : String := "(A,{01},[01],1,{>X})"

/-- A rule of `halfway`. -/
def halfwayRule (nextState : String) : Rule := ⟨⟨"A", '0'⟩, ⟨nextState, '1', .right⟩, 7⟩

theorem Dialect.readOne_into_leaves_halfway :
    (standard.readOne 7 halfway).into List.concat [] =
      (.error ⟨.malformed .move, 7⟩, [halfwayRule "0", halfwayRule "1"]) ∧
    ∃ rules, LeftBehind standard 7 halfway rules ∧
      [halfwayRule "0", halfwayRule "1"] = rules.foldl List.concat [] := by
  have read : (standard.readOne 7 halfway).into List.concat [] =
      (.error ⟨.malformed .move, 7⟩, [halfwayRule "0", halfwayRule "1"]) := by
    have fault : (standard.readLine 7 halfway).fault? = some (.malformed .move) := by
      decide +kernel
    have rules : (standard.readLine 7 halfway).rules = [halfwayRule "0", halfwayRule "1"] := by
      decide +kernel
    rw [Reading.into, result_readOne, rules_readOne, fault, rules]
    rfl
  refine ⟨read, ?_⟩
  exact ((readOne_into_leaves standard 7 halfway List.concat [] _ _ read).2 _ rfl).2.2 rfl

end TuringScript
