import TuringScript.CommandLine.Run
import TuringScript.Proofs.RuleLine.StartState
import TuringScript.Proofs.Source.Lines
import TuringScript.Proofs.Storage.Agreement

/-!
# States on the command line

A state that is asked for on the command line is folded as it stands, and the states of a program
are folded with their lines. A machine that is told to start in a state finds the rules of any line
that spells that state out.
-/
namespace TuringScript

/-! ### Files that load -/

namespace Storage

variable {storage : Storage} {path : String} {content : ByteArray}

/-- The rules of a file that loads are those of its lines. -/
theorem loadRules_eq_ok_iff (holds : storage.find path = .file content) (rules : List Rule) :
    storage.loadRules path = .ok rules ↔
      content.size ≤ maxProgramSize ∧
      (Dialect.standard.readStream ⟨[content.toList], none⟩).error? = none ∧
      (Dialect.standard.readStream ⟨[content.toList], none⟩).rules = rules := by
  generalize reading : Dialect.standard.readStream ⟨[content.toList], none⟩ = whole
  by_cases oversized : maxProgramSize < content.size
  · simp [loadRules, read, holds, oversized, Nat.not_le.mpr oversized, bind, Except.bind]
  · simp only [loadRules, read, holds, if_neg oversized, reading, Nat.not_lt.mp oversized,
      Reading.accepted, bind, Except.bind, true_and]
    cases whole.error? <;> simp [Except.mapError]

end Storage

namespace CommandLine

open Grammar

theorem state_prepare {chosen : Options} {name : String} (named : chosen.state = some name)
    (machine : Machine) : (prepare chosen machine).state = foldState name := by
  unfold prepare
  rw [named]
  cases chosen.limit <;> simp [Machine.setLimit_eq, Machine.setInitialState]

theorem buildMachine_of_program {chosen : Options} {path : String}
    (program : chosen.program = some path) (storage : Storage) :
    buildMachine storage chosen = (storage.loadMachine path).map (prepare chosen) := by
  rw [buildMachine, chooseMachine, program]

/-- A program that loads, and a line of it that spells out a name as its start state. If the machine
is told to start in that state, it starts in the state that all rules of the line start in, and there
is such a rule. -/
theorem buildMachine_starts_in_state_of_line (storage : Storage) (chosen : Options)
    (path name line : String) (content : ByteArray) (rules : List Rule) (index : Nat)
    (program : chosen.program = some path) (named : chosen.state = some name)
    (nonempty : name ≠ "") (holds : storage.find path = .file content)
    (loads : storage.loadRules path = .ok rules)
    (listed : (ByteStream.lines ⟨[content.toList], none⟩)[index]? = some (.ok line))
    (spells : SpellsStart name line) :
    ∃ machine, buildMachine storage chosen = .ok machine ∧
      (∃ rule ∈ rules, rule.line = index + 1) ∧
      ∀ rule ∈ rules, rule.line = index + 1 → rule.key.state = machine.state := by
  obtain ⟨-, accepted, rfl⟩ := (Storage.loadRules_eq_ok_iff holds rules).mp loads
  have own := Reading.mem_rules_iff_of_accepted accepted listed
  obtain ⟨some, starts⟩ := Dialect.state_of_spellsStart (by decide) nonempty spells
    (Reading.fault?_of_accepted accepted listed)
  have built : storage.loadMachine path = .ok (Machine.empty.addRules
      (Dialect.standard.readStream ⟨[content.toList], none⟩).rules) := by
    rw [Storage.loadMachine, loads]
    rfl
  obtain ⟨rule, member⟩ := List.exists_mem_of_ne_nil _ some
  refine ⟨_, by rw [buildMachine_of_program program, built, Except.map], ?_, ?_⟩
  · exact ⟨rule, (own rule).mpr member⟩
  · intro rule member number
    rw [state_prepare named, foldState]
    exact starts rule ((own rule).mp ⟨member, number⟩)

/-- Its second line has rules for a state whose name has a character with an upper case of two, and a
comma. -/
def sharpProgram : String := "# sharp\n( \\ß\\,x ,[01],B,1,>)"

def sharpOnly : Storage where
  find path :=
    if path = "sharp.tm" then .file sharpProgram.toUTF8 else .absent FileError.notFound

theorem buildMachine_starts_in_state_of_line_sharp :
    ∃ machine, buildMachine sharpOnly { program := some "sharp.tm", state := some "ß,x" } =
        .ok machine ∧ machine.state = "SS,X" := by
  have holds : sharpOnly.find "sharp.tm" = .file sharpProgram.toUTF8 := by simp [sharpOnly]
  have loads : sharpOnly.loadRules "sharp.tm" = .ok
      [⟨⟨"SS,X", '0'⟩, ⟨"B", '1', .right⟩, 2⟩, ⟨⟨"SS,X", '1'⟩, ⟨"B", '1', .right⟩, 2⟩] := by
    rw [Storage.loadRules, Storage.read_of_find holds]
    decide
  have listed : (ByteStream.lines ⟨[sharpProgram.toUTF8.toList], none⟩)[1]? =
      some (.ok "( \\ß\\,x ,[01],B,1,>)") := by
    rw [ByteStream.lines_toUTF8]
    decide
  have spells : SpellsStart "ß,x" "( \\ß\\,x ,[01],B,1,>)" := by
    refine ⟨[.space], [.space], [.escaped 'ß', .escaped ',', .plain 'x'], "[01],B,1,>)".toList,
      by decide, ?_, by decide⟩
    simp [Printing.Solid, Ordinary]
  obtain ⟨machine, built, -, starts⟩ := buildMachine_starts_in_state_of_line sharpOnly
    { program := some "sharp.tm", state := some "ß,x" } "sharp.tm" "ß,x" _ _ _ 1 rfl rfl
    (by decide) holds loads listed spells
  exact ⟨machine, built, (starts _ (.head _) rfl).symm⟩

end CommandLine
end TuringScript
