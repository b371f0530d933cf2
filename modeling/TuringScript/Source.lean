import TuringScript.RuleLine.Reader
import TuringScript.Table
import TuringScript.Text.Lines

/-!
# Source texts

A source is read line by line, counting lines from one, and reading ends with the first line at
fault. The rules of the lines before it stand.
-/
namespace TuringScript

structure LineReport where
  number : Nat
  outcome : LineOutcome

/-- One report for each line that was looked at, in order. -/
structure Reading where
  reports : List LineReport

namespace Reading

/-- Keeps the reports up to the first one of a fault, that one included. -/
def untilFault (reports : List LineReport) : List LineReport :=
  reports.takeWhile (·.outcome.fault?.isNone) ++
    (reports.dropWhile (·.outcome.fault?.isNone)).take 1

/-- A line that could not be fetched is given by the reason. -/
def ofLines (dialect : Dialect) (lines : List (Except String String)) : Reading :=
  ⟨untilFault (lines.mapIdx fun index line =>
    { number := index + 1
      outcome := match line with
        | .ok text => dialect.readLine (index + 1) text
        | .error reason => .unreadable reason })⟩

def rules (reading : Reading) : List Rule :=
  reading.reports.flatMap (·.outcome.rules)

def error? (reading : Reading) : Option ParseError :=
  reading.reports.findSome? fun report =>
    report.outcome.fault?.map fun fault => ⟨fault, report.number⟩

/-- The rules, if no line is at fault. -/
def accepted (reading : Reading) : Except ParseError (List Rule) :=
  match reading.error? with
  | some error => .error error
  | none => .ok reading.rules

/-- The number of rules, if no line is at fault. -/
def result (reading : Reading) : Except ParseError Nat :=
  reading.accepted.map List.length

def table (reading : Reading) : Except ParseError Table :=
  reading.accepted.map Table.ofRules

end Reading

def Dialect.read (dialect : Dialect) (source : String) : Reading :=
  .ofLines dialect ((Text.lines source.toList).map fun line => .ok (String.ofList line))

end TuringScript
