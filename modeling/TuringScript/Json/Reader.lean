import TuringScript.Json.Value

/-!
# Reading JSON

A text is read as one value with white space around it and nothing else. Strings may hold any
escape of four hexadecimal digits; whether the escapes amount to text is found when the pairs of
surrogates are joined.
-/
namespace TuringScript.Json

def isSpace (c : Char) : Bool := c == ' ' || c == '\n' || c == '\t' || c == '\r'

def skipSpace (text : List Char) : List Char := text.dropWhile isSpace

/-- The text after an expected spelling. -/
def expect (spelling : String) (text : List Char) : Option (List Char) :=
  spelling.toList.isPrefixOf? text

/-! ### Strings -/

def hexValue? (c : Char) : Option Nat :=
  if c.isDigit then some (c.toNat - '0'.toNat)
  else if 'a' ≤ c && c ≤ 'f' then some (c.toNat - 'a'.toNat + 10)
  else if 'A' ≤ c && c ≤ 'F' then some (c.toNat - 'A'.toNat + 10)
  else none

def escapeCode? : Char → Option Nat
  | '"' => some 0x22
  | '\\' => some 0x5C
  | '/' => some 0x2F
  | 'b' => some 0x08
  | 'f' => some 0x0C
  | 'n' => some 0x0A
  | 'r' => some 0x0D
  | 't' => some 0x09
  | _ => none

/-- The codes of a string up to its closing quote, and the text after it. Each escape gives one
code, which may be a surrogate. -/
def readCodes : List Char → Option (List Nat × List Char)
  | [] => none
  | '"' :: rest => some ([], rest)
  | '\\' :: 'u' :: a :: b :: c :: d :: rest => do
    let a ← hexValue? a
    let b ← hexValue? b
    let c ← hexValue? c
    let d ← hexValue? d
    let (codes, after) ← readCodes rest
    return ((((a * 16 + b) * 16 + c) * 16 + d) :: codes, after)
  | '\\' :: c :: rest => do
    let code ← escapeCode? c
    let (codes, after) ← readCodes rest
    return (code :: codes, after)
  | c :: rest =>
    if c.toNat < 0x20 then none
    else do
      let (codes, after) ← readCodes rest
      return (c.toNat :: codes, after)

def isLeading (code : Nat) : Bool := 0xD800 ≤ code && code ≤ 0xDBFF

def isTrailing (code : Nat) : Bool := 0xDC00 ≤ code && code ≤ 0xDFFF

/-- Joins surrogate pairs. There is no text if a surrogate is left over. -/
def joinSurrogates : List Nat → Option (List Char)
  | [] => some []
  | [code] => if isLeading code || isTrailing code then none else some [Char.ofNat code]
  | code :: next :: rest =>
    if isLeading code then
      if isTrailing next then
        (joinSurrogates rest).map
          (Char.ofNat (0x10000 + (code - 0xD800) * 0x400 + (next - 0xDC00)) :: ·)
      else none
    else if isTrailing code then none
    else (joinSurrogates (next :: rest)).map (Char.ofNat code :: ·)

/-- The rest of a string after its opening quote. -/
def readString (text : List Char) : Option (Option String × List Char) := do
  let (codes, after) ← readCodes text
  return ((joinSurrogates codes).map String.ofList, after)

/-! ### Numbers -/

def readDigits (text : List Char) : Option (List Char × List Char) :=
  let (digits, after) := text.span Char.isDigit
  if digits.isEmpty then none else some (digits, after)

/-- A whole number has no leading zero. -/
def readWhole (text : List Char) : Option (List Char × List Char) :=
  match text with
  | '0' :: rest => some (['0'], rest)
  | text => readDigits text

def readFraction (text : List Char) : Option (List Char × List Char) :=
  match text with
  | '.' :: rest => (readDigits rest).map fun (digits, after) => ('.' :: digits, after)
  | text => some ([], text)

def readExponent (text : List Char) : Option (List Char × List Char) :=
  match text with
  | e :: rest =>
    if e = 'e' || e = 'E' then
      let (sign, digits) := match rest with
        | '+' :: digits => (['+'], digits)
        | '-' :: digits => (['-'], digits)
        | digits => ([], digits)
      (readDigits digits).map fun (digits, after) => (e :: sign ++ digits, after)
    else some ([], text)
  | [] => some ([], text)

def readNumber (text : List Char) : Option (Json × List Char) := do
  let (sign, text) := match text with
    | '-' :: rest => (['-'], rest)
    | text => ([], text)
  let (whole, text) ← readWhole text
  let (fraction, text) ← readFraction text
  let (power, text) ← readExponent text
  return (.number (String.ofList (sign ++ whole ++ fraction ++ power)), text)

/-! ### Values -/

mutual

/-- A value at the front of the text. The fuel bounds how many readers are nested. -/
def readValue : Nat → List Char → Option (Json × List Char)
  | 0, _ => none
  | fuel + 1, text =>
    match text with
    | 'n' :: _ => (expect "null" text).map (.null, ·)
    | 't' :: _ => (expect "true" text).map (.bool true, ·)
    | 'f' :: _ => (expect "false" text).map (.bool false, ·)
    | '"' :: rest => (readString rest).map fun (text, after) => (.string text, after)
    | '[' :: rest =>
      match skipSpace rest with
      | ']' :: after => some (.array [], after)
      | rest => (readItems fuel rest).map fun (items, after) => (.array items, after)
    | '{' :: rest =>
      match skipSpace rest with
      | '}' :: after => some (.object [], after)
      | rest => (readFields fuel rest).map fun (fields, after) => (.object fields, after)
    | text => readNumber text

/-- The items of an array from the first one on, and the text after its closing bracket. -/
def readItems : Nat → List Char → Option (List Json × List Char)
  | 0, _ => none
  | fuel + 1, text => do
    let (item, text) ← readValue fuel text
    match skipSpace text with
    | ']' :: after => return ([item], after)
    | ',' :: rest =>
      let (items, after) ← readItems fuel (skipSpace rest)
      return (item :: items, after)
    | _ => none

/-- The fields of an object from the first one on, and the text after its closing bracket. -/
def readFields : Nat → List Char → Option (List (Option String × Json) × List Char)
  | 0, _ => none
  | fuel + 1, text => do
    let text ← expect "\"" text
    let (name, text) ← readString text
    let text ← expect ":" (skipSpace text)
    let (value, text) ← readValue fuel (skipSpace text)
    match skipSpace text with
    | '}' :: after => return ([(name, value)], after)
    | ',' :: rest =>
      let (fields, after) ← readFields fuel (skipSpace rest)
      return ((name, value) :: fields, after)
    | _ => none

end

/-- Every level of nesting takes a character and two readers. -/
def read (text : String) : Option Json := do
  let (value, rest) ← readValue (2 * text.length + 1) (skipSpace text.toList)
  if (skipSpace rest).isEmpty then some value else none

end TuringScript.Json
