import TuringScript.CharClass.Reader
import TuringScript.Dialect
import TuringScript.RuleLine.Expansion
import TuringScript.RuleLine.Fields

/-!
# Reading a rule line

A line is folded first, and skipped if it holds no rule. Any other line is cut into fields; absent
fields are reported before malformed ones, each kind in the order in which fields are written; then
the template is expanded. Rules that come before a faulty combination stand.
-/
namespace TuringScript

namespace RuleLine

def ClassText.charClass (text : ClassText) : CharClass :=
  .bracketed text.channel text.content

def FieldText.charClass : FieldText → CharClass
  | .bare run => .token run
  | .bracketed text => text.charClass

def StateText.template? (text : StateText) : Option (StateField CharClass) :=
  let front := String.ofList (unescape text.front)
  match text.varying with
  | none => some (.literal front)
  | some (varying, back) =>
    if varying.charClass.isEmpty then none
    else some (.varying front varying.charClass (String.ofList (unescape back)))

/-- A bare token must name exactly one character, a class at least one. -/
def FieldText.template? (text : FieldText) : Option CharClass :=
  let charClass := text.charClass
  if charClass.isEmpty || (charClass.channel.isNone && charClass.size != 1) then none
  else some charClass

def FieldTexts.template (texts : FieldTexts) (line : Nat) : Except Fault RuleTemplate := do
  let startState ← Field.startState.present texts.startState
  let startSymbol ← Field.startSymbol.present texts.startSymbol
  let destState ← Field.destState.present texts.destState
  let destSymbol ← Field.destSymbol.present texts.destSymbol
  let move ← Field.move.present texts.move
  let startState ← Field.startState.wellFormed startState.template?
  let startSymbol ← Field.startSymbol.wellFormed startSymbol.template?
  let destState ← Field.destState.wellFormed destState.template?
  let destSymbol ← Field.destSymbol.wellFormed destSymbol.template?
  let move ← Field.move.wellFormed move.template?
  RuleTemplate.ofFields ⟨startState, startSymbol, destState, destSymbol, move⟩ line

end RuleLine

/-- What came of one line. -/
inductive LineOutcome where
  | skipped
  | unreadable (reason : String)
  | rejected (fault : Fault)
  | expanded (combinations : Nat) (rules : List Rule) (fault : Option Fault)

namespace LineOutcome

/-- The rules of a line, also when a later combination is at fault. -/
def rules : LineOutcome → List Rule
  | .expanded _ rules _ => rules
  | _ => []

def fault? : LineOutcome → Option Fault
  | .skipped => none
  | .unreadable reason => some (.unreadable (some reason))
  | .rejected fault => some fault
  | .expanded _ _ fault => fault

end LineOutcome

def RuleTemplate.outcome (template : RuleTemplate) : LineOutcome :=
  let expansion := Expansion.ofTemplate template
  let enumeration := expansion.enumerate
  .expanded expansion.combinations enumeration.rules enumeration.fault

/-- The outcome of the line with the given number. -/
def Dialect.readLine (dialect : Dialect) (number : Nat) (line : String) : LineOutcome :=
  let text := dialect.fold line
  if dialect.skips text then .skipped
  else
    let template := do
      let texts ← RuleLine.readFields dialect.commentMarker text
      texts.template number
    match template with
    | .ok template => template.outcome
    | .error fault => .rejected fault

end TuringScript
