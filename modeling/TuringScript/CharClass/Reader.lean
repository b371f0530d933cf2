import TuringScript.CharClass.Basic

/-!
# Reading a class

A bare token only decodes escapes. The content of a bracketed class may begin with the negation
marker, and two dots between two characters add the part of the alphabet after the first character
up to the second one. The lower bound is the character that stands before the dots, whatever put it
there, so ranges chain. A range whose bounds are reversed or have no rank adds nothing.
-/
namespace TuringScript.CharClass

/-- An escape at the very end protects nothing and stands for itself. -/
def tokenItems : List Char → List Alternative
  | [] => []
  | '\\' :: c :: rest => ⟨c, true⟩ :: tokenItems rest
  | c :: rest => ⟨c, false⟩ :: tokenItems rest

/-- What a range adds to its lower bound. -/
def rangeItems (low high : Char) : List Alternative :=
  match Alphabet.rank? low, Alphabet.rank? high with
  | some lowRank, some highRank =>
    ((Alphabet.chars.take (highRank + 1)).drop (lowRank + 1)).map (⟨·, true⟩)
  | _, _ => []

/-- The items of bracketed content. `previous` is the last character read, if there is one. -/
def contentItems (previous : Option Char) (content : List Char) : List Alternative :=
  match previous, content with
  | _, [] => []
  | some low, '.' :: '.' :: '\\' :: high :: rest =>
    rangeItems low high ++ contentItems (some high) rest
  | some low, '.' :: '.' :: high :: rest =>
    rangeItems low high ++ contentItems (some high) rest
  | _, '\\' :: c :: rest => ⟨c, true⟩ :: contentItems (some c) rest
  | _, c :: rest => ⟨c, false⟩ :: contentItems (some c) rest

def token (text : List Char) : CharClass :=
  ⟨none, .listed (tokenItems text)⟩

def bracketed (channel : Channel) (content : List Char) : CharClass :=
  match content with
  | '^' :: excluded => ⟨some channel, .complement ((contentItems none excluded).map (·.char))⟩
  | listed => ⟨some channel, .listed (contentItems none listed)⟩

/-- The class spelled between positions `start` and `stop` of a text. An opening bracket at `start`
decides that it is bracketed; the last character before `stop` is then taken for the closing one. -/
def ofSpan (text : List Char) (start stop : Nat) : CharClass :=
  match text[start]?.bind Channel.ofOpening? with
  | some channel => bracketed channel ((text.take (stop - 1)).drop (start + 1))
  | none => token ((text.take stop).drop start)

def ofText (text : List Char) : CharClass := ofSpan text 0 text.length

end TuringScript.CharClass
