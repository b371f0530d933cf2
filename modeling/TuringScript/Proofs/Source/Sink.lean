import TuringScript.Source

/-!
# Sinks

The rules of a reading are handed to a sink, which takes them one by one. A sink is given by what
taking a rule makes of it; a list, a table and a machine are sinks.
-/
namespace TuringScript

variable {τ : Type}

/-- What is returned when a reading goes into a sink, and the sink afterwards. -/
def Reading.into (reading : Reading) (add : τ → Rule → τ) (sink : τ) :
    Except ParseError Nat × τ :=
  (reading.result, reading.rules.foldl add sink)

namespace Dialect

/-- The reading of a single line. -/
def readOne (dialect : Dialect) (number : Nat) (line : String) : Reading :=
  ⟨[⟨number, dialect.readLine number line⟩]⟩

/-- The template that a line is cut to. -/
def template (dialect : Dialect) (number : Nat) (line : String) : Except Fault RuleTemplate := do
  let texts ← RuleLine.readFields dialect.commentMarker (dialect.fold line)
  texts.template number

variable (dialect : Dialect) (number : Nat) (line : String)

theorem readLine_eq :
    dialect.readLine number line =
      if dialect.skips (dialect.fold line) then .skipped
      else match dialect.template number line with
        | .ok template => template.outcome
        | .error fault => .rejected fault := rfl

theorem rules_readOne :
    (dialect.readOne number line).rules = (dialect.readLine number line).rules := by
  simp [readOne, Reading.rules]

theorem result_readOne :
    (dialect.readOne number line).result =
      match (dialect.readLine number line).fault? with
      | some fault => .error ⟨fault, number⟩
      | none => .ok (dialect.readLine number line).rules.length := by
  unfold Reading.result Reading.accepted
  rw [rules_readOne]
  cases faulty : (dialect.readLine number line).fault? <;>
    simp [Reading.error?, readOne, faulty, Except.map]

end Dialect
end TuringScript
