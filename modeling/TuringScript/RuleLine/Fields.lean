import TuringScript.RuleLine.Token
import TuringScript.Error

/-!
# Field texts

A rule line is cut into the texts of its five fields. Parentheses around the rule are optional but
come in pairs, blanks may stand around every field, and after the rule only a comment may follow.
What a field's text means is not looked at here, except that a class must be closed.
-/
namespace TuringScript.RuleLine

/-- A class as it is written, without its delimiters. -/
structure ClassText where
  channel : Channel
  content : List Char
  deriving DecidableEq, Repr

/-- A state as it is written: a run, or a class between two runs. -/
structure StateText where
  front : List Char
  varying : Option (ClassText × List Char)
  deriving DecidableEq, Repr

/-- A symbol or a move as it is written. -/
inductive FieldText where
  | bare (run : List Char)
  | bracketed (text : ClassText)
  deriving DecidableEq, Repr

/-- The five field texts. A field that was left empty is absent. -/
structure FieldTexts where
  startState : Option StateText
  startSymbol : Option FieldText
  destState : Option StateText
  destSymbol : Option FieldText
  move : Option FieldText
  deriving DecidableEq, Repr

/-- The rest of a class after its opening delimiter. An unclosed class is malformed. -/
def readClass (field : Field) (channel : Channel) (text : List Char) :
    Except Fault (ClassText × List Char) :=
  let (content, after) := scanRun text
  match after with
  | [] => .error (.malformed field)
  | c :: rest =>
    if c = channel.closing then .ok (⟨channel, content⟩, rest) else .error (.malformed field)

/-- No state may end its line. -/
def readState (field : Field) (text : List Char) :
    Except Fault (Option StateText × List Char) :=
  let (front, after) := scanRun (skipBlanks text)
  match after with
  | [] => .error .unexpectedEnd
  | c :: rest =>
    match Channel.ofOpening? c with
    | none => .ok (if front.isEmpty then none else some ⟨front, none⟩, after)
    | some channel => do
      let (varying, rest) ← readClass field channel rest
      let (back, rest) := scanRun rest
      return (some ⟨front, some (varying, back)⟩, rest)

def readField (field : Field) (text : List Char) :
    Except Fault (Option FieldText × List Char) :=
  let text := skipBlanks text
  match text.head?.bind Channel.ofOpening? with
  | some channel => do
    let (varying, rest) ← readClass field channel text.tail
    return (some (.bracketed varying), rest)
  | none =>
    let (run, rest) := scanRun text
    .ok (if run.isEmpty then none else some (.bare run), rest)

def expectComma (text : List Char) : Except Fault (List Char) :=
  match skipBlanks text with
  | ',' :: rest => .ok rest
  | _ => .error .missingComma

/-- Whether the rule is in parentheses, and the text after the opening one. -/
def openRule (text : List Char) : Bool × List Char :=
  match skipBlanks text with
  | '(' :: rest => (true, rest)
  | rest => (false, rest)

def closeRule (parenthesized : Bool) (text : List Char) : Except Fault (List Char) :=
  let text := skipBlanks text
  if parenthesized then
    match text with
    | ')' :: rest => .ok rest
    | _ => .error .missingClosing
  else .ok text

def endRule (commentMarker : Char) (text : List Char) : Except Fault Unit :=
  match skipBlanks text with
  | [] => .ok ()
  | c :: _ => if c = commentMarker then .ok () else .error .trailingData

def readFields (commentMarker : Char) (text : List Char) : Except Fault FieldTexts := do
  let (parenthesized, text) := openRule text
  let (startState, text) ← readState .startState text
  let text ← expectComma text
  let (startSymbol, text) ← readField .startSymbol text
  let text ← expectComma text
  let (destState, text) ← readState .destState text
  let text ← expectComma text
  let (destSymbol, text) ← readField .destSymbol text
  let text ← expectComma text
  let (move, text) ← readField .move text
  let text ← closeRule parenthesized text
  endRule commentMarker text
  return ⟨startState, startSymbol, destState, destSymbol, move⟩

end TuringScript.RuleLine
