import TuringScript.Proofs.RuleLine.Odometer
import TuringScript.RuleLine.Reader

/-!
# Enumeration in closed form

The rules of a template are those of its combinations, in order, up to the first combination that
does not read as a rule.
-/
namespace TuringScript

/-- The values before the first error, and that error. -/
def upToError {ε α : Type} : List (Except ε α) → List α × Option ε
  | [] => ([], none)
  | .ok value :: rest => (value :: (upToError rest).1, (upToError rest).2)
  | .error e :: _ => ([], some e)

theorem upToError_snd_eq_none_iff {ε α : Type} (items : List (Except ε α)) :
    (upToError items).2 = none ↔ ∀ item ∈ items, ∃ value, item = .ok value := by
  induction items with
  | nil => simp [upToError]
  | cons item rest ih => cases item <;> simp [upToError, ih]

/-! ### Reading a combination -/

/-- The name that a state field spells. -/
def StateField.name? : StateField (Option Alternative) → Option String
  | .literal name => some name
  | .varying front middle back => middle.map fun a => front ++ a.char.toString ++ back

/-- The rule that five alternatives spell. The first field without one is at fault. -/
def RuleFields.rule (fields : RuleFields (Option Alternative)) (line : Nat) :
    Except Fault Rule := do
  let state ← Field.startState.wellFormed fields.startState.name?
  let symbol ← Field.startSymbol.wellFormed (fields.startSymbol.map Alternative.symbol)
  let nextState ← Field.destState.wellFormed fields.destState.name?
  let write ← Field.destSymbol.wellFormed (fields.destSymbol.map Alternative.symbol)
  let direction ← Field.move.wellFormed
    ((fields.move.map Alternative.char).bind Direction.ofGlyph?)
  return ⟨⟨state, symbol⟩, ⟨nextState, write, direction⟩, line⟩

/-- The alternatives of the `k`-th combination. -/
def RuleFields.combination (fields : RuleFields CharClass) (k : Nat) :
    RuleFields (Option Alternative) :=
  fields.map fun c => c.alternatives[c.position (Expansion.digits (fields.span .square) k)]?

/-- What the `k`-th combination reads as. -/
def RuleTemplate.ruleAt (template : RuleTemplate) (k : Nat) : Except Fault Rule :=
  (template.fields.combination k).rule template.line

/-! ### Combinations without gaps -/

def StateField.name : StateField Alternative → String
  | .literal name => name
  | .varying front middle back => front ++ middle.char.toString ++ back

/-- The alternative of a class at the given positions. The default is never read from a class that
is not empty. -/
def CharClass.pick (positions : Channel → Nat) (charClass : CharClass) : Alternative :=
  charClass.alternatives.getD (charClass.position positions) ⟨Alphabet.blank, true⟩

theorem RuleFields.rule_map_some (fields : RuleFields Alternative) (line : Nat) :
    (fields.map some).rule line =
      match Direction.ofGlyph? fields.move.char with
      | some direction =>
        .ok ⟨⟨fields.startState.name, fields.startSymbol.symbol⟩,
          ⟨fields.destState.name, fields.destSymbol.symbol, direction⟩, line⟩
      | none => .error (.malformed .move) := by
  have named (field : StateField Alternative) : (field.map some).name? = some field.name := by
    cases field <;> rfl
  simp only [rule, map, named, Field.wellFormed, Option.map_some, Option.bind_some, bind,
    Except.bind, pure, Except.pure]
  cases Direction.ofGlyph? fields.move.char <;> rfl

theorem RuleFields.combination_eq_map_pick {fields : RuleFields CharClass}
    (agree : fields.sizesAgree = true) (inhabited : ∀ c ∈ fields.toList, c.size ≠ 0) {k : Nat}
    (inside : k < fields.span .square * fields.span .curly) :
    fields.combination k =
      (fields.map (CharClass.pick (Expansion.digits (fields.span .square) k))).map some := by
  rw [RuleFields.map_map]
  apply RuleFields.map_congr
  intro c member
  have bound := Expansion.position_digits_lt agree member (inhabited c member) inside
  rw [CharClass.size_eq_length] at bound
  simp [CharClass.pick, List.getElem?_eq_getElem bound]

namespace Expansion

theorem readState?_eq_name? (field : StateField ClassCursor) :
    readState? field = (field.map ClassCursor.current?).name? := by
  cases field with
  | literal name => rfl
  | varying front middle back =>
    simp only [readState?, ClassCursor.char?, Option.map_map, StateField.map, StateField.name?]
    rfl

theorem current_eq_rule (expansion : Expansion) :
    expansion.current = (expansion.cursors.map ClassCursor.current?).rule expansion.line := by
  unfold current RuleFields.rule
  simp only [readState?_eq_name?, ClassCursor.symbol?, ClassCursor.char?, RuleFields.map]

/-- The enumeration of a template before its `k`-th combination. -/
def ofCombination (template : RuleTemplate) (k : Nat) : Expansion :=
  ⟨template.fields.place (digits (template.fields.span .square) k), template.line, false⟩

/-- In the first combination every class stands at its first alternative. -/
theorem position_digits_zero (charClass : CharClass) (span : Nat) :
    charClass.position (digits span 0) = 0 := by
  unfold CharClass.position
  cases charClass.channel with
  | none => rfl
  | some channel => cases channel <;> simp [digits]

theorem ofTemplate_eq_ofCombination (template : RuleTemplate) :
    ofTemplate template = ofCombination template 0 := by
  have initial (c : CharClass) :
      ClassCursor.ofClass c = ClassCursor.seek c
        (c.position (digits (template.fields.span .square) 0)) := by
    rw [position_digits_zero]
    rfl
  unfold ofTemplate ofCombination RuleFields.place
  rw [RuleFields.map_congr fun c _ => initial c]

theorem current_ofCombination (template : RuleTemplate) (k : Nat) :
    (ofCombination template k).current = template.ruleAt k := by
  rw [current_eq_rule, ofCombination, RuleFields.place, RuleFields.map_map]
  unfold RuleTemplate.ruleAt RuleFields.combination
  congr 2
  funext c
  exact ClassCursor.current?_seek c _

theorem combinations_ofTemplate (template : RuleTemplate) :
    (ofTemplate template).combinations =
      template.fields.span .square * template.fields.span .curly := by
  have sources : (ofTemplate template).cursors.toList.map ClassCursor.source =
      template.fields.toList := by
    rw [ofTemplate_eq_ofCombination, ofCombination, RuleFields.place, RuleFields.toList_map,
      List.map_map]
    simp [Function.comp_def]
  unfold combinations RuleFields.span
  simp only [sources, Channel.all, List.filterMap_cons, List.filterMap_nil]
  cases template.fields.toList.find? (·.counts .square) <;>
    cases template.fields.toList.find? (·.counts .curly) <;> simp

/-- One call for an item reads the combination that is reached. Then the odometer turns to the next
one, unless that was at fault or there is none. -/
theorem next?_ofCombination (template : RuleTemplate) (agree : template.fields.sizesAgree = true)
    {k : Nat} (inside : k < template.fields.span .square * template.fields.span .curly) :
    (ofCombination template k).next? = some (template.ruleAt k,
      if (template.ruleAt k).isOk ∧
          k + 1 < template.fields.span .square * template.fields.span .curly then
        ofCombination template (k + 1)
      else { ofCombination template k with finished := true }) := by
  have turned := carry_place_digits agree inside
  have read := current_ofCombination template k
  have fresh : (ofCombination template k).finished = false := rfl
  change carry [] (ofCombination template k).cursors Channel.all = _ at turned
  cases reads : template.ruleAt k with
  | error fault =>
    rw [reads] at read
    simp [next?, fresh, read, Except.isOk, Except.toBool]
  | ok rule =>
    rw [reads] at read
    by_cases more : k + 1 < template.fields.span .square * template.fields.span .curly
    · rw [if_pos more] at turned
      simp only [next?, fresh, read, turned, more]
      rfl
    · rw [if_neg more] at turned
      simp [next?, fresh, read, turned, more]

/-- From the `k`-th combination on, by induction on the number of combinations left. -/
theorem take_ofCombination (template : RuleTemplate) (agree : template.fields.sizesAgree = true)
    (k count : Nat)
    (whole : k + count = template.fields.span .square * template.fields.span .curly) :
    ((take count (ofCombination template k)).rules, (take count (ofCombination template k)).fault) =
      upToError ((List.range' k count).map template.ruleAt) := by
  induction count generalizing k with
  | zero => rfl
  | succ count ih =>
    have called := next?_ofCombination template agree (show k < _ by omega)
    rw [List.range'_succ, List.map_cons]
    cases reads : template.ruleAt k with
    | error fault =>
      rw [reads] at called
      simp only [take, called, upToError]
    | ok rule =>
      rw [reads] at called
      by_cases more : k + 1 < template.fields.span .square * template.fields.span .curly
      · have later := ih (k + 1) (by omega)
        rw [if_pos ⟨rfl, more⟩] at called
        simp only [take, called, upToError, ← later]
      -- The last combination leaves no fuel, so that nothing depends on what follows.
      · have last : count = 0 := by omega
        subst last
        simp only [take, called, upToError, List.range'_zero, List.map_nil]

/-- A template whose sizes agree expands to the rules of its combinations. -/
theorem outcome_eq (template : RuleTemplate) (agree : template.fields.sizesAgree = true) :
    template.outcome =
      .expanded (template.fields.span .square * template.fields.span .curly)
        (upToError ((List.range (template.fields.span .square * template.fields.span .curly)).map
          template.ruleAt)).1
        (upToError ((List.range (template.fields.span .square * template.fields.span .curly)).map
          template.ruleAt)).2 := by
  have items := take_ofCombination template agree 0 _ (Nat.zero_add _)
  rw [← List.range_eq_range'] at items
  unfold RuleTemplate.outcome enumerate
  dsimp only
  rw [combinations_ofTemplate, ofTemplate_eq_ofCombination, ← items]

end Expansion
end TuringScript
