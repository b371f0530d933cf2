import TuringScript.Catalogue
import TuringScript.Proofs.Machine.Sweeping
import TuringScript.Proofs.Source.Lines
import TuringScript.Proofs.Table.LastRule

/-!
# Catalogue entries

The built-in texts are lists of lines, and they are read line by line. Each is read without a fault,
so it has an entry that is found by its name, and a machine with just the rules of its lines.
-/
namespace TuringScript

/-! ### Texts that are lists of lines -/

namespace Catalogue

variable {lines : List String}

theorem lines_ofLines (whole : ∀ line ∈ lines, Text.IsLine line.toList) :
    Text.lines (ofLines lines).toList = lines.map String.toList := by
  induction lines with
  | nil => rfl
  | cons line lines ih =>
    obtain ⟨first, others⟩ := List.forall_mem_cons.mp whole
    have spelled : (ofLines (line :: lines)).toList =
        line.toList ++ '\n' :: (ofLines lines).toList := by
      simp [ofLines]
    rw [spelled, Text.lines_line_append first, ih others, List.map_cons]

theorem read_ofLines (whole : ∀ line ∈ lines, Text.IsLine line.toList) (dialect : Dialect) :
    dialect.read (ofLines lines) = .ofLines dialect (lines.map .ok) := by
  rw [Dialect.read, lines_ofLines whole, List.map_map]
  simp only [Function.comp_def, String.ofList_toList]

/-- A key is looked for line by line. -/
theorem header?_ofLines_cons {line key value : String}
    (whole : ∀ other ∈ line :: lines, Text.IsLine other.toList)
    (found : header? (ofLines [line]) key = some value) :
    header? (ofLines (line :: lines)) key = some value := by
  have alone : ∀ other ∈ [line], Text.IsLine other.toList := by simp [whole line]
  simp only [header?, lines_ofLines alone, List.map_cons, List.map_nil, List.findSome?_cons,
    List.findSome?_nil] at found
  simp only [header?, lines_ofLines whole, List.map_cons, List.findSome?_cons]
  split at found
  next first => simpa only [first] using found
  next => cases found

end Catalogue

/-! ### Entries -/

/-- The program has the name, and the rules are what is read from its text. -/
structure BuiltIn.Offers (program : BuiltIn) (name : String) (rules : List Rule) : Prop where
  name_eq : program.name = name
  rules_eq : (Dialect.standard.read program.text).rules = rules

namespace Catalogue

/-- A text that fits and is read without a fault has an entry. -/
theorem exists_entry (index : Nat) {first name : String} {lines : List String} {rules : List Rule}
    (whole : ∀ line ∈ first :: lines, Text.IsLine line.toList)
    (fits : (ofLines (first :: lines)).utf8ByteSize ≤ maxProgramSize)
    (named : header? (ofLines [first]) "name" = some name)
    (reads : (Reading.ofLines .standard ((first :: lines).map .ok)).error? = none ∧
      (Reading.ofLines .standard ((first :: lines).map .ok)).rules = rules) :
    ∃ program, builtIn? index (ofLines (first :: lines)) = some program ∧
      program.Offers name rules := by
  -- Reading line by line is decided; reading the whole text would cut it again.
  rw [← read_ofLines whole] at reads
  obtain ⟨faultless, rules_eq⟩ := reads
  have loaded : loadText (ofLines (first :: lines)) = .ok (.ofRules rules) := by
    simp only [loadText, readText, if_neg (Nat.not_lt.mpr fits), bind, Except.bind, Reading.table,
      Reading.accepted, faultless, rules_eq]
    rfl
  refine ⟨_, by simp only [builtIn?, loaded]; rfl, ?_, ?_⟩
  · exact congrArg (Option.getD · _) (header?_ofLines_cons whole named)
  · exact rules_eq

/-! ### The built-in programs -/

def binaryIncrementRules : List Rule := [
  ⟨⟨"0", '0'⟩, ⟨"0", '0', .right⟩, 4⟩,
  ⟨⟨"0", '1'⟩, ⟨"0", '1', .right⟩, 4⟩,
  ⟨⟨"0", ' '⟩, ⟨"1", ' ', .left⟩, 5⟩,
  ⟨⟨"1", '1'⟩, ⟨"1", '0', .left⟩, 6⟩,
  ⟨⟨"1", '0'⟩, ⟨"H", '1', .stay⟩, 7⟩,
  ⟨⟨"1", ' '⟩, ⟨"H", '1', .stay⟩, 8⟩]

def bitInverterRules : List Rule := [
  ⟨⟨"0", '0'⟩, ⟨"0", '1', .right⟩, 4⟩,
  ⟨⟨"0", '1'⟩, ⟨"0", '0', .right⟩, 4⟩,
  ⟨⟨"0", ' '⟩, ⟨"H", ' ', .left⟩, 5⟩]

def unaryAdditionRules : List Rule := [
  ⟨⟨"0", '1'⟩, ⟨"0", '1', .right⟩, 4⟩,
  ⟨⟨"1", '1'⟩, ⟨"1", '1', .right⟩, 4⟩,
  ⟨⟨"0", '+'⟩, ⟨"1", '1', .right⟩, 5⟩,
  ⟨⟨"1", ' '⟩, ⟨"2", ' ', .left⟩, 6⟩,
  ⟨⟨"2", '1'⟩, ⟨"H", ' ', .stay⟩, 7⟩]

theorem exists_entry_binaryIncrement : ∃ program,
    builtIn? 0 binaryIncrement = some program ∧
      program.Offers "Binary Increment" binaryIncrementRules := by
  apply exists_entry 0 <;> decide +kernel

theorem exists_entry_bitInverter : ∃ program,
    builtIn? 1 bitInverter = some program ∧ program.Offers "Bit Inverter" bitInverterRules := by
  apply exists_entry 1 <;> decide +kernel

theorem exists_entry_unaryAddition : ∃ program,
    builtIn? 2 unaryAddition = some program ∧
      program.Offers "Unary Addition" unaryAdditionRules := by
  apply exists_entry 2 <;> decide +kernel

theorem byName_of_entries {program : BuiltIn} {before after : List BuiltIn}
    (listed : entries = before ++ program :: after)
    (others : ∀ other ∈ before, other.name.toLower ≠ program.name.toLower) :
    byName program.name = .ok program := by
  have first : (before ++ program :: after).find?
      (fun other => other.name.toLower = program.name.toLower) = some program := by
    rw [List.find?_append, List.find?_eq_none.mpr (by simpa using others)]
    simp
  rw [← listed] at first
  -- The search is not unfolded in place: the entries are closed, and would be computed.
  generalize searched : byName = search
  delta byName at searched
  subst searched
  simp only [first]

/-- The first entries, in the order of their texts. -/
theorem exists_entries : ∃ increment inverter addition others,
    entries = increment :: inverter :: addition :: others ∧
      increment.Offers "Binary Increment" binaryIncrementRules ∧
      inverter.Offers "Bit Inverter" bitInverterRules ∧
      addition.Offers "Unary Addition" unaryAdditionRules := by
  obtain ⟨increment, made₀, offers₀⟩ := exists_entry_binaryIncrement
  obtain ⟨inverter, made₁, offers₁⟩ := exists_entry_bitInverter
  obtain ⟨addition, made₂, offers₂⟩ := exists_entry_unaryAddition
  refine ⟨increment, inverter, addition, [builtIn? 3 busyBeaver].filterMap id, ?_, offers₀, offers₁,
    offers₂⟩
  simp [entries, texts, made₀, made₁, made₂]

theorem exists_byName_binaryIncrement : ∃ program,
    byName "Binary Increment" = .ok program ∧
      program.Offers "Binary Increment" binaryIncrementRules := by
  obtain ⟨increment, _, _, _, listed, offers, -⟩ := exists_entries
  refine ⟨increment, ?_, offers⟩
  rw [← offers.name_eq]
  exact byName_of_entries (show entries = [] ++ increment :: _ from listed) (by simp)

theorem exists_byName_bitInverter : ∃ program,
    byName "Bit Inverter" = .ok program ∧ program.Offers "Bit Inverter" bitInverterRules := by
  obtain ⟨increment, inverter, _, _, listed, before, offers, -⟩ := exists_entries
  refine ⟨inverter, ?_, offers⟩
  rw [← offers.name_eq]
  refine byName_of_entries (show entries = [increment] ++ inverter :: _ from listed) ?_
  simp only [List.mem_singleton, forall_eq, before.name_eq, offers.name_eq]
  decide +kernel

theorem exists_byName_unaryAddition : ∃ program,
    byName "Unary Addition" = .ok program ∧
      program.Offers "Unary Addition" unaryAdditionRules := by
  obtain ⟨increment, inverter, addition, _, listed, before, between, offers⟩ := exists_entries
  refine ⟨addition, ?_, offers⟩
  rw [← offers.name_eq]
  refine byName_of_entries (show entries = [increment, inverter] ++ addition :: _ from listed) ?_
  simp only [List.mem_cons, List.not_mem_nil, or_false, forall_eq_or_imp, forall_eq,
    before.name_eq, between.name_eq, offers.name_eq]
  decide +kernel

/-! ### Halting -/

/-- The built-in program of that name, with the input on its tape, runs alone until no rule applies.
By then it has made exactly so many steps, and is in that state and on that tape. -/
def Halts (name input : String) (steps : Nat) (state : String) (tape : Tape) : Prop :=
  ∃ program, byName name = .ok program ∧ ∃ final : Machine,
    (∀ fuel, ((machine program).setTape input).runAlone fuel =
      if steps < fuel then some (.noRule, final) else none) ∧
    final.state = state ∧ final.tape = tape ∧ final.steps = steps

variable {rules : List Rule}

theorem halts_of_path {name input state : String} {steps : Nat} {tape : Tape}
    (offered : ∃ program, byName name = .ok program ∧ program.Offers name rules)
    (path : (Table.ofRules rules).Path
      ⟨Machine.defaultState, .facingRight [] input.toList⟩ steps ⟨state, tape⟩)
    (stuck : (Table.ofRules rules).Stuck ⟨state, tape⟩) :
    Halts name input steps state tape := by
  obtain ⟨program, found, -, reads⟩ := offered
  have loaded : ((machine program).setTape input).table = Table.ofRules rules := by
    rw [← reads]
    rfl
  have unlimited : ((machine program).setTape input).limit = none := rfl
  rw [← Tape.ofString_eq_facingRight] at path
  obtain ⟨final, ends, arrives, counted⟩ := Machine.runAlone_of_path unlimited loaded path stuck
  refine ⟨program, found, final, ends, ?_, ?_, ?_⟩
  · exact congrArg Place.state arrives
  · exact congrArg Place.tape arrives
  · exact counted.trans (Nat.zero_add steps)

/-- A state that no rule begins with ends every path. -/
theorem stuck_of_forall_ne {state : String} (foreign : ∀ rule ∈ rules, rule.key.state ≠ state)
    (tape : Tape) : (Table.ofRules rules).Stuck ⟨state, tape⟩ := by
  have missing : Table.lastRule? rules ⟨state, tape.head⟩ = none := by
    rw [Table.lastRule?_eq_none_iff]
    exact fun rule member same => foreign rule member (congrArg Key.state same)
  rw [Table.Stuck, Table.lookup?_ofRules, missing, Option.map_none]

end Catalogue
end TuringScript
