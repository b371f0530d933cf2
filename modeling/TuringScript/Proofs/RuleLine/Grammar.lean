import TuringScript.RuleLine.Reader

/-!
# The grammar of rule lines

Which texts are rule lines, as relations between a text, what is read off its front, and the rest.
Runs of atoms and of blanks are maximal. An escape that ends the text protects nothing; the grammar
comes in two variants, according to whether it counts as an atom.
-/
namespace TuringScript.Grammar

/-! ### Runs -/

/-- A character that stands for itself, or an escaped one. -/
inductive Atom where
  | plain (c : Char)
  | escaped (c : Char)
  deriving DecidableEq, Repr

namespace Atom

def char : Atom → Char
  | plain c => c
  | escaped c => c

def spelling : Atom → List Char
  | plain c => [c]
  | escaped c => ['\\', c]

/-- The alternative that an atom contributes to a class. -/
def alternative : Atom → Alternative
  | plain c => ⟨c, false⟩
  | escaped c => ⟨c, true⟩

end Atom

def spelling (run : List Atom) : List Char := run.flatMap Atom.spelling

/-- Neither a blank nor the escape nor a character that gives a line its structure. -/
def Ordinary (c : Char) : Prop :=
  c ∉ [' ', '\t', '\\', '(', ')', ',', '[', ']', '{', '}']

instance (c : Char) : Decidable (Ordinary c) := inferInstanceAs (Decidable (c ∉ _))

/-- Whether an atom stands at the front of a text. With `lone`, an escape that ends the text counts
as one. -/
inductive BeginsAtom (lone : Bool) : List Char → Prop where
  | escaped (c : Char) (text : List Char) : BeginsAtom lone ('\\' :: c :: text)
  | plain (c : Char) (text : List Char) (ordinary : Ordinary c) : BeginsAtom lone (c :: text)
  | last (counts : lone = true) : BeginsAtom lone ['\\']

/-- A maximal run of atoms and the text after it. -/
inductive Run (lone : Bool) : List Char → List Atom → List Char → Prop where
  | done {rest : List Char} (maximal : ¬ BeginsAtom lone rest) : Run lone rest [] rest
  | escaped {c : Char} {text rest : List Char} {run : List Atom} (later : Run lone text run rest) :
      Run lone ('\\' :: c :: text) (.escaped c :: run) rest
  | plain {c : Char} {text rest : List Char} {run : List Atom} (ordinary : Ordinary c)
      (later : Run lone text run rest) : Run lone (c :: text) (.plain c :: run) rest
  | last (counts : lone = true) : Run lone ['\\'] [.plain '\\'] []

/-- A maximal run of spaces and tabs, which may be empty, and the text after it. -/
def Blanks (text rest : List Char) : Prop :=
  ∃ blanks, text = blanks ++ rest ∧ (∀ c ∈ blanks, c = ' ' ∨ c = '\t') ∧
    ∀ c ∈ rest.head?, c ≠ ' ' ∧ c ≠ '\t'

/-! ### Fields -/

structure ClassTree where
  channel : Channel
  content : List Atom
  deriving DecidableEq, Repr

/-- A state: a run, or a class between two runs. -/
inductive StateTree where
  | bare (run : List Atom)
  | varying (front : List Atom) (middle : ClassTree) (back : List Atom)
  deriving DecidableEq, Repr

/-- A symbol or a move: a run or a class. -/
inductive SlotTree where
  | bare (run : List Atom)
  | bracketed (charClass : ClassTree)
  deriving DecidableEq, Repr

structure LineTree where
  startState : StateTree
  startSymbol : SlotTree
  destState : StateTree
  destSymbol : SlotTree
  move : SlotTree
  deriving DecidableEq, Repr

inductive Class (lone : Bool) : List Char → ClassTree → List Char → Prop where
  | closed {channel : Channel} {text rest : List Char} {content : List Atom}
      (run : Run lone text content (channel.closing :: rest)) :
      Class lone (channel.opening :: text) ⟨channel, content⟩ rest

inductive State (lone : Bool) : List Char → StateTree → List Char → Prop where
  | bare {text rest : List Char} {run : List Atom} (reads : Run lone text run rest)
      (nonempty : run ≠ []) : State lone text (.bare run) rest
  | varying {text text₁ text₂ rest : List Char} {front back : List Atom} {middle : ClassTree}
      (before : Run lone text front text₁) (charClass : Class lone text₁ middle text₂)
      (after : Run lone text₂ back rest) : State lone text (.varying front middle back) rest

inductive Slot (lone : Bool) : List Char → SlotTree → List Char → Prop where
  | bare {text rest : List Char} {run : List Atom} (reads : Run lone text run rest)
      (nonempty : run ≠ []) : Slot lone text (.bare run) rest
  | bracketed {text rest : List Char} {charClass : ClassTree}
      (reads : Class lone text charClass rest) : Slot lone text (.bracketed charClass) rest

/-! ### Lines -/

/-- An item with blanks around it. -/
def Padded {α : Type} (item : List Char → α → List Char → Prop) (text : List Char) (tree : α)
    (rest : List Char) : Prop :=
  ∃ start stop, Blanks text start ∧ item start tree stop ∧ Blanks stop rest

/-- Five fields with commas between them. -/
inductive Fields (lone : Bool) : List Char → LineTree → List Char → Prop where
  | separated {text text₁ text₂ text₃ text₄ rest : List Char} {tree : LineTree}
      (startState : Padded (State lone) text tree.startState (',' :: text₁))
      (startSymbol : Padded (Slot lone) text₁ tree.startSymbol (',' :: text₂))
      (destState : Padded (State lone) text₂ tree.destState (',' :: text₃))
      (destSymbol : Padded (Slot lone) text₃ tree.destSymbol (',' :: text₄))
      (move : Padded (Slot lone) text₄ tree.move rest) : Fields lone text tree rest

/-- After blanks, the end of the line or a comment. -/
def Ends (marker : Char) (text : List Char) : Prop :=
  ∃ rest, Blanks text rest ∧ (rest = [] ∨ ∃ comment, rest = marker :: comment)

/-- A rule line. The parenthesis is closed exactly if it was opened. -/
inductive Line (lone : Bool) (marker : Char) : List Char → LineTree → Prop where
  | bare {text start rest : List Char} {tree : LineTree} (blanks : Blanks text start)
      (fields : Fields lone start tree rest) (ends : Ends marker rest) : Line lone marker text tree
  | parenthesized {text start rest : List Char} {tree : LineTree}
      (blanks : Blanks text ('(' :: start)) (fields : Fields lone start tree (')' :: rest))
      (ends : Ends marker rest) : Line lone marker text tree

theorem fields_of_line {lone : Bool} {marker : Char} {text : List Char} {tree : LineTree}
    (line : Line lone marker text tree) : ∃ start rest, Fields lone start tree rest := by
  cases line with
  | bare _ fields => exact ⟨_, _, fields⟩
  | parenthesized _ fields => exact ⟨_, _, fields⟩

end TuringScript.Grammar
