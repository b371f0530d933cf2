import TuringScript.CommandLine.Run
import TuringScript.Proofs.Machine.Silence
import TuringScript.Proofs.RuleLine.Scanning
import TuringScript.Proofs.Storage.Agreement

/-!
# Tracing

The command line listens to its machine and never stops it, so a trace does not change the run: it
is printed before the summary, one line for each number of steps from none to all of them, and
whatever else is printed stays the same.
-/
namespace TuringScript.CommandLine

open Machine

/-! ### What the listeners collect -/

theorem silent_listeners (chosen : Options) :
    ∀ listener ∈ listeners chosen, listener.Silent := by
  intro listener member
  have either : listener = recorder ∨ listener = tracer chosen.width := by
    simp only [listeners, List.mem_append] at member
    rcases member with recording | tracing
    · split at recording <;> simp_all
    · split at tracing <;> simp_all
  rcases either with rfl | rfl
  · exact fun _ _ _ => rfl
  · intro notice machine memory
    cases notice <;> rfl

theorem notify_listeners_round (chosen : Options) (n : Nat) (machine : Machine)
    (memory : Collected) :
    (machine.notify (listeners chosen) (roundNotice n) memory).2 =
      { lines := if chosen.trace then traceLine chosen.width machine :: memory.lines
          else memory.lines
        events := if 2 ≤ chosen.verbosity then .ofNotice machine (roundNotice n) :: memory.events
          else memory.events } := by
  unfold listeners
  cases n <;> split <;> split <;> rfl

theorem notify_listeners_stopped (chosen : Options) (halt : Halt) (machine : Machine)
    (memory : Collected) :
    (machine.notify (listeners chosen) (.stopped halt) memory).2 =
      { memory with
        events := if 2 ≤ chosen.verbosity then .ofNotice machine (.stopped halt) :: memory.events
          else memory.events } := by
  unfold listeners
  split <;> split <;> rfl

/-- The events of the first rounds of a run, latest first. -/
def roundEvents (machine : Machine) (n : Nat) : List Event :=
  ((List.range n).map fun i => .ofNotice (machine.running.after i) (roundNotice i)).reverse

/-- What is collected in the first rounds of a run. -/
theorem memoryBefore_listeners (chosen : Options) (machine : Machine) (n : Nat) :
    machine.memoryBefore (listeners chosen) ⟨[], []⟩ n =
      { lines := if chosen.trace then
          ((List.range n).map fun i => traceLine chosen.width (machine.running.after i)).reverse
          else []
        events := if 2 ≤ chosen.verbosity then roundEvents machine n else [] } := by
  induction n with
  | zero => simp [memoryBefore, roundEvents]
  | succ n ih =>
    rw [memoryBefore, notify_listeners_round, ih]
    simp only [roundEvents, List.range_succ, List.map_append, List.reverse_append]
    split <;> split <;> rfl

/-! ### The trace of a run -/

/-- What a trace shows after so many steps: their number, the state and the tape around the head. -/
def traceRecord (width : Nat) (machine : Machine) (count : Nat) : String :=
  Text.alignRight 6 (toString count) ++ " " ++ Text.alignRight 8 (machine.after count).state ++
    " |" ++ (machine.after count).tape.window width ++ "|"

/-- A machine that has not run counts its own steps. -/
theorem traceLine_running_after (width : Nat) {machine : Machine} (fresh : machine.steps = 0)
    {count : Nat} (moves : (count : ℕ∞) ≤ machine.successes) :
    traceLine width (machine.running.after count) = traceRecord width machine count := by
  have counted : (machine.after count).steps = count := by
    rw [steps_after moves, fresh, Nat.zero_add]
  rw [running_after, traceLine, traceRecord]
  change Text.alignRight 6 (toString (machine.after count).steps) ++ _ ++ _ ++ _ ++ _ ++ _ = _
  rw [counted]
  rfl

theorem steps_prepare (chosen : Options) (machine : Machine) :
    (prepare chosen machine).steps = machine.steps := by
  unfold prepare
  cases chosen.input <;> cases chosen.state <;> cases chosen.limit <;>
    simp [setLimit_eq, setTape, setInitialState]

theorem steps_of_buildMachine {storage : Storage} {chosen : Options} {machine : Machine}
    (built : buildMachine storage chosen = .ok machine) : machine.steps = 0 := by
  obtain ⟨loaded, choice, rfl⟩ := map_eq_ok_iff.mp built
  rw [steps_prepare]
  unfold chooseMachine at choice
  -- From a file, from the catalogue, or from neither of them.
  split at choice
  · obtain ⟨rules, -, returned⟩ := bind_eq_ok_iff.mp choice
    cases returned
    rfl
  · obtain ⟨program, -, rfl⟩ := map_eq_ok_iff.mp choice
    rfl
  · cases choice

/-! ### Running a machine that was built -/

theorem joinLines_append (front back : List String) :
    joinLines (front ++ back) = joinLines front ++ joinLines back := by
  rw [joinLines, List.map_append, String.join_append]
  rfl

/-- What is collected in a run of `k` steps, latest first. -/
noncomputable def collected (chosen : Options) (machine : Machine) (k : Nat) : Collected where
  lines := if chosen.trace then
      ((List.range (k + 1)).map (traceRecord chosen.width machine)).reverse
    else []
  events := if 2 ≤ chosen.verbosity then
      .ofNotice (machine.ended (machine.quietCause k) k) (.stopped (machine.quietCause k)) ::
        roundEvents machine (k + 1)
    else []

section Running

variable {machine : Machine} {k : Nat} (fuel : Nat) (chosen : Options)

theorem runWithin_listeners (fresh : machine.steps = 0) (length : machine.quietLength = k) :
    machine.runWithin fuel (listeners chosen) ⟨[], []⟩ =
      if k < fuel then some (machine.quietCause k, machine.ended (machine.quietCause k) k,
        collected chosen machine k)
      else none := by
  have silent := silent_listeners chosen
  have runLength := (runLength_of_silent silent machine ⟨[], []⟩).trans length
  have moves : (k : ℕ∞) ≤ machine.successes := length ▸ min_le_left _ _
  have records : (List.range (k + 1)).map
      (fun i => traceLine chosen.width (machine.running.after i)) =
        (List.range (k + 1)).map (traceRecord chosen.width machine) := by
    refine List.map_congr_left fun i inside => ?_
    have earlier : (i : ℕ∞) ≤ machine.successes :=
      le_trans (Nat.cast_le.mpr (Nat.lt_succ_iff.mp (List.mem_range.mp inside))) moves
    exact traceLine_running_after _ fresh earlier
  rw [runWithin_of_eq_runLength _ machine _ runLength, result_of_silent silent,
    notify_listeners_stopped, memoryBefore_listeners, records]
  -- The recorder adds the end of the run to its events, the tracer adds nothing.
  by_cases recording : 2 ≤ chosen.verbosity
  · simp only [collected, if_pos recording]
  · simp only [collected, if_neg recording]

theorem runWithin_listeners_of_endless (endless : machine.quietLength = ⊤) :
    machine.runWithin fuel (listeners chosen) ⟨[], []⟩ = none := by
  have runLength := runLength_of_silent (silent_listeners chosen) machine ⟨[], []⟩
  exact runWithin_of_runLength_eq_top _ machine _ (runLength.trans endless) fuel

end Running

/-! ### Executing options -/

/-- A printer that has a text for every summary. -/
def JsonPrinter.NeverFails (printer : JsonPrinter) : Prop :=
  ∀ summary, ∃ text, printer summary = .ok text

theorem neverFails_indentedJson : indentedJson.NeverFails := fun _ => ⟨_, rfl⟩

theorem exists_reportLines {printer : JsonPrinter} (prints : printer.NeverFails) (json : Bool)
    (summary : RunSummary) : ∃ lines, reportLines printer json summary = .ok lines := by
  cases json with
  | false => exact ⟨_, rfl⟩
  | true =>
    obtain ⟨text, printed⟩ := prints summary
    exact ⟨[text], by rw [reportLines, if_pos rfl, printed, Except.map]⟩

/-- What is reported if the machine stops after `k` steps. -/
noncomputable def reportOf (printer : JsonPrinter) (chosen : Options) (machine : Machine)
    (k : Nat) : Except String (List String) :=
  reportLines printer chosen.json
    (.ofMachine (machine.quietCause k) (machine.ended (machine.quietCause k) k))

/-- The diagnostics if the machine stops after `k` steps. -/
noncomputable def diagnosticsOf (storage : Storage) (chosen : Options) (machine : Machine)
    (k : Nat) : List String :=
  logLines chosen (loadEvents storage chosen) ++
    logLines chosen (collected chosen machine k).events.reverse

section Execution

variable (printer : JsonPrinter) {storage : Storage} {chosen : Options}
  (runs : chosen.list = false) (fuel : Nat)
include runs

theorem execute_of_error {error : LoadError} (fails : buildMachine storage chosen = .error error) :
    execute printer fuel storage chosen =
      some ⟨1, "", logLines chosen (loadEvents storage chosen) ++ [errorLine error]⟩ := by
  simp only [execute, runs, fails, Bool.false_eq_true, if_false]

variable {machine : Machine} (built : buildMachine storage chosen = .ok machine)
include built

theorem execute_of_built {k : Nat} (length : machine.quietLength = k) :
    execute printer fuel storage chosen =
      if k < fuel then some (.ofReport (collected chosen machine k).lines.reverse
        (diagnosticsOf storage chosen machine k) (reportOf printer chosen machine k))
      else none := by
  simp only [execute, runs, built, Bool.false_eq_true, if_false]
  rw [runWithin_listeners _ _ (steps_of_buildMachine built) length]
  split <;> rfl

theorem execute_of_endless (endless : machine.quietLength = ⊤) :
    execute printer fuel storage chosen = none := by
  simp only [execute, runs, built, Bool.false_eq_true, if_false]
  rw [runWithin_listeners_of_endless _ _ endless]
  rfl

end Execution

/-! ### With and without a trace -/

/-- The outcome of some options, and the outcome of the same options with a trace. -/
inductive TracedOutcome (printer : JsonPrinter) (storage : Storage) (chosen : Options)
    (fuel : Nat) : Outcome → Outcome → Prop where
  /-- Without a machine there is nothing to print, and the last line says why. -/
  | unbuilt (error : LoadError) (diagnostics : List String)
      (fails : buildMachine storage chosen = .error error) :
      TracedOutcome printer storage chosen fuel ⟨1, "", diagnostics ++ [errorLine error]⟩
        ⟨1, "", diagnostics ++ [errorLine error]⟩
  /-- The trace comes before the report, from no step to all the steps of the run. -/
  | ran (machine final : Machine) (halt : Halt) (lines diagnostics : List String)
      (built : buildMachine storage chosen = .ok machine)
      (ends : machine.runAlone fuel = some (halt, final))
      (reports : reportLines printer chosen.json (.ofMachine halt final) = .ok lines) :
      TracedOutcome printer storage chosen fuel ⟨0, joinLines lines, diagnostics⟩
        ⟨0, joinLines ((List.range (final.steps + 1)).map (traceRecord chosen.width machine)) ++
          joinLines lines, diagnostics⟩

/-- The trace is all that is added, since nothing else of an outcome looks at that option. -/
theorem tracedOutcome_of_built {printer : JsonPrinter} (prints : printer.NeverFails)
    {storage : Storage} {chosen : Options} {machine : Machine} {k fuel : Nat}
    (untraced : chosen.trace = false) (built : buildMachine storage chosen = .ok machine)
    (length : machine.quietLength = k) (enough : k < fuel) :
    let other : Options := { chosen with trace := true }
    TracedOutcome printer storage chosen fuel
      (.ofReport (collected chosen machine k).lines.reverse (diagnosticsOf storage chosen machine k)
        (reportOf printer chosen machine k))
      (.ofReport (collected other machine k).lines.reverse (diagnosticsOf storage other machine k)
        (reportOf printer other machine k)) := by
  intro other
  have ends := runAlone_of_quietLength machine length fuel
  rw [if_pos enough] at ends
  -- The machine was just built, so it has made no steps but those of the run.
  have counted : (machine.ended (machine.quietCause k) k).steps = k := by
    rw [steps_ended machine length, steps_of_buildMachine built, Nat.zero_add]
  obtain ⟨lines, reported⟩ : ∃ lines, reportOf printer chosen machine k = .ok lines :=
    exists_reportLines prints _ _
  have without : (collected chosen machine k).lines.reverse = [] := by
    simp only [collected, untraced, Bool.false_eq_true, if_false, List.reverse_nil]
  have traced : (collected other machine k).lines.reverse =
      (List.range (k + 1)).map (traceRecord chosen.width machine) := by
    simp only [collected, other, if_true, List.reverse_reverse]
  have reportedToo : reportOf printer other machine k = .ok lines := reported
  have ran := TracedOutcome.ran machine _ _ lines (diagnosticsOf storage chosen machine k) built
    ends reported
  -- The trace goes by the number of steps, which the machine counts itself.
  rw [counted, ← joinLines_append] at ran
  rw [without, traced, reported, reportedToo]
  exact ran

/-- Options that run a machine, without a trace and with one. There is an outcome unless the run
goes on, with the same exit code and the same diagnostics both times. If there is no machine to run,
nothing is printed. Otherwise what is printed without the trace comes after one record for each
number of steps of the run. -/
theorem execute_traced (printer : JsonPrinter) (prints : printer.NeverFails) (fuel : Nat)
    (storage : Storage) (chosen : Options) (runs : chosen.list = false)
    (untraced : chosen.trace = false) :
    (∃ machine, buildMachine storage chosen = .ok machine ∧ machine.runAlone fuel = none ∧
      execute printer fuel storage chosen = none ∧
      execute printer fuel storage { chosen with trace := true } = none) ∨
    ∃ outcome traced, execute printer fuel storage chosen = some outcome ∧
      execute printer fuel storage { chosen with trace := true } = some traced ∧
      TracedOutcome printer storage chosen fuel outcome traced := by
  -- Which machine is built does not depend on the trace.
  let other : Options := { chosen with trace := true }
  have otherRuns : other.list = false := runs
  have same : buildMachine storage other = buildMachine storage chosen := rfl
  cases built : buildMachine storage chosen with
  | error error =>
    exact .inr ⟨_, _, execute_of_error printer runs fuel built,
      execute_of_error printer otherRuns fuel (same.trans built), .unbuilt error _ built⟩
  | ok machine =>
    have otherBuilt := same.trans built
    match length : machine.quietLength with
    | ⊤ =>
      exact .inl ⟨machine, rfl, runAlone_of_endless machine length fuel,
        execute_of_endless printer runs fuel built length,
        execute_of_endless printer otherRuns fuel otherBuilt length⟩
    | (k : ℕ) =>
      have ends := runAlone_of_quietLength machine length fuel
      rw [execute_of_built printer runs fuel built length,
        execute_of_built printer otherRuns fuel otherBuilt length]
      by_cases enough : k < fuel
      · rw [if_pos enough, if_pos enough]
        exact .inr ⟨_, _, rfl, rfl, tracedOutcome_of_built prints untraced built length enough⟩
      · rw [if_neg enough] at ends ⊢
        exact .inl ⟨machine, rfl, ends, rfl, if_neg enough⟩

/-- A storage with one file, whose one rule writes a mark on a blank cell. -/
def markOnly : Storage where
  find path :=
    if path = "mark.tm" then .file "(0,-,1,X,>)".toUTF8 else .absent FileError.notFound

/-- The machine that is loaded from the file. -/
def markMachine : Machine := .ofTable (.ofRules [⟨⟨"0", ' '⟩, ⟨"1", 'X', .right⟩, 1⟩])

theorem loadMachine_markOnly : markOnly.loadMachine "mark.tm" = .ok markMachine := by
  have holds : markOnly.find "mark.tm" = .file "(0,-,1,X,>)".toUTF8 := by simp [markOnly]
  have loads : loadText "(0,-,1,X,>)" =
      .ok (.ofRules [⟨⟨"0", ' '⟩, ⟨"1", 'X', .right⟩, 1⟩]) := by decide +kernel
  rw [Storage.loadMachine_eq_loadTable, Storage.loadTable_eq_of_read (Storage.read_of_find holds),
    loads]
  rfl

theorem execute_traced_markOnly :
    let chosen : Options := { program := some "mark.tm", width := 3, json := true }
    let text := "\x7b\n  \"state\": \"1\",\n  \"steps\": 1,\n  \"halt\": \"NoRule\",\n" ++
      "  \"tape\": \"X \",\n  \"head\": 1,\n  \"debug_line\": null\n\x7d\n"
    ∃ diagnostics,
      execute indentedJson 2 markOnly chosen = some ⟨0, text, diagnostics⟩ ∧
      execute indentedJson 2 markOnly { chosen with trace := true } = some
        ⟨0, "     0        0 |   |\n     1        1 |X  |\n" ++ text, diagnostics⟩ := by
  intro chosen text
  have built : buildMachine markOnly chosen = .ok markMachine :=
    congrArg (Except.map (prepare chosen)) loadMachine_markOnly
  -- The run of the machine, which takes one step.
  have counted : (markMachine.runAlone 2).map (fun run => run.2.steps) = some 1 := by
    decide +kernel
  have printed : (markMachine.runAlone 2).map (fun run =>
      (reportLines indentedJson true (.ofMachine run.1 run.2)).map joinLines) =
        some (.ok text) := by decide +kernel
  have shown : joinLines ((List.range (1 + 1)).map (traceRecord 3 markMachine)) =
      "     0        0 |   |\n     1        1 |X  |\n" := by decide +kernel
  rcases execute_traced indentedJson neverFails_indentedJson 2 markOnly chosen rfl rfl
    with ⟨machine, builtAs, never, -⟩ | ⟨outcome, traced, executes, executesTraced, both⟩
  · obtain rfl := Except.ok.inj (built.symm.trans builtAs)
    rw [never] at counted
    cases counted
  · cases both with
    | unbuilt error diagnostics fails => exact absurd (built.symm.trans fails) nofun
    | ran machine final halt lines diagnostics builtAs ends reports =>
      obtain rfl := Except.ok.inj (built.symm.trans builtAs)
      rw [ends, Option.map_some, Option.some.injEq] at counted printed
      have joined : joinLines lines = text := by
        change (reportLines indentedJson chosen.json _).map joinLines = _ at printed
        rw [reports] at printed
        exact Except.ok.inj printed
      rw [counted, joined] at executesTraced
      rw [joined] at executes
      exact ⟨diagnostics, executes, executesTraced.trans (by rw [← shown])⟩

end TuringScript.CommandLine
