import TuringScript.Json.Value

/-!
# Printing JSON

The compact form has no blanks. The indented form puts every item and every field on a line of its
own, two blanks deeper than the brackets around it; an empty array or object stays on one line.
Only quotes, backslashes and controls are escaped.
-/
namespace TuringScript.Json

def hexDigit (value : Nat) : Char := Nat.digitChar (value % 16)

def escapeChar (c : Char) : List Char :=
  match c with
  | '"' => ['\\', '"']
  | '\\' => ['\\', '\\']
  | '\n' => ['\\', 'n']
  | '\r' => ['\\', 'r']
  | '\t' => ['\\', 't']
  | '\x08' => ['\\', 'b']
  | '\x0c' => ['\\', 'f']
  | c =>
    if c.toNat < 0x20 then
      ['\\', 'u', '0', '0', hexDigit (c.toNat / 16), hexDigit c.toNat]
    else [c]

def quote (text : String) : String :=
  String.ofList ('"' :: text.toList.flatMap escapeChar ++ ['"'])

/-- A string without text is printed as the replacement character. -/
def quoteText (text : Option String) : String := quote (text.getD "\ufffd")

mutual

def compact : Json → String
  | .null => "null"
  | .bool value => if value then "true" else "false"
  | .number numeral => numeral
  | .string text => quoteText text
  | .array items => "[" ++ compactItems items ++ "]"
  | .object fields => "\x7b" ++ compactFields fields ++ "\x7d"

def compactItems : List Json → String
  | [] => ""
  | [item] => compact item
  | item :: items => compact item ++ "," ++ compactItems items

def compactFields : List (Option String × Json) → String
  | [] => ""
  | [(name, value)] => quoteText name ++ ":" ++ compact value
  | (name, value) :: fields =>
    quoteText name ++ ":" ++ compact value ++ "," ++ compactFields fields

end

def newline (depth : Nat) : String :=
  String.ofList ('\n' :: List.replicate (2 * depth) ' ')

mutual

/-- The indented form of a value inside `depth` brackets. -/
def indented (depth : Nat) : Json → String
  | .null => "null"
  | .bool value => if value then "true" else "false"
  | .number numeral => numeral
  | .string text => quoteText text
  | .array [] => "[]"
  | .array (item :: items) =>
    "[" ++ newline (depth + 1) ++ indented (depth + 1) item ++ indentedItems (depth + 1) items ++
      newline depth ++ "]"
  | .object [] => "\x7b\x7d"
  | .object ((name, value) :: fields) =>
    "\x7b" ++ newline (depth + 1) ++ quoteText name ++ ": " ++ indented (depth + 1) value ++
      indentedFields (depth + 1) fields ++ newline depth ++ "\x7d"

def indentedItems (depth : Nat) : List Json → String
  | [] => ""
  | item :: items => "," ++ newline depth ++ indented depth item ++ indentedItems depth items

def indentedFields (depth : Nat) : List (Option String × Json) → String
  | [] => ""
  | (name, value) :: fields =>
    "," ++ newline depth ++ quoteText name ++ ": " ++ indented depth value ++
      indentedFields depth fields

end

end TuringScript.Json
