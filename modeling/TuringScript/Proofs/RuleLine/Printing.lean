import TuringScript.Proofs.RuleLine.Denotation
import TuringScript.Proofs.RuleLine.Enumeration

/-!
# Printing

Rule lines as they are meant, with their meaning, and as they are written with every character
escaped. Reading what was written gives what was meant.
-/
namespace TuringScript.Printing

/-! ### Rule lines -/

/-- One item of a class. -/
inductive Element where
  | single (c : Char)
  | range (low high : Char)
  deriving DecidableEq, Repr

structure Class where
  channel : Channel
  negated : Bool
  elements : List Element
  deriving DecidableEq, Repr

inductive Slot where
  | char (c : Char)
  | bracketed (charClass : Class)
  deriving DecidableEq, Repr

inductive State where
  | literal (name : String) (nonempty : name ≠ "")
  | varying (front : String) (middle : Class) (back : String)
  deriving DecidableEq, Repr

structure Line where
  startState : State
  startSymbol : Slot
  destState : State
  destSymbol : Slot
  move : Slot
  deriving DecidableEq, Repr

/-! ### What they are written as -/

def escape (text : List Char) : List Char := text.flatMap fun c => ['\\', c]

def Element.render : Element → List Char
  | .single c => ['\\', c]
  | .range low high => ['\\', low, '.', '.', '\\', high]

def Class.render (charClass : Class) : List Char :=
  charClass.channel.opening :: (if charClass.negated then ['^'] else []) ++
    charClass.elements.flatMap Element.render ++ [charClass.channel.closing]

def Slot.render : Slot → List Char
  | .char c => ['\\', c]
  | .bracketed charClass => charClass.render

def State.render : State → List Char
  | .literal name _ => escape name.toList
  | .varying front middle back => escape front.toList ++ middle.render ++ escape back.toList

def Line.render (line : Line) : String :=
  String.ofList <| '(' :: line.startState.render ++ ',' :: line.startSymbol.render ++
    ',' :: line.destState.render ++ ',' :: line.destSymbol.render ++
    ',' :: line.move.render ++ [')']

/-! ### What they mean -/

/-- A range is its lower bound and what is ranked above it, up to the upper bound. -/
def Element.chars : Element → List Char
  | .single c => [c]
  | .range low high => low :: Alphabet.between low high

/-- A negated class is what the alphabet has besides the elements, in rank order. -/
def Class.chars (charClass : Class) : List Char :=
  let listed := charClass.elements.flatMap Element.chars
  if charClass.negated then Alphabet.chars.filter (· ∉ listed) else listed

def Slot.classes : Slot → List Class
  | .char _ => []
  | .bracketed charClass => [charClass]

def State.classes : State → List Class
  | .literal _ _ => []
  | .varying _ middle _ => [middle]

def Line.classes (line : Line) : List Class :=
  line.startState.classes ++ line.startSymbol.classes ++ line.destState.classes ++
    line.destSymbol.classes ++ line.move.classes

/-- Every class denotes at least one character. -/
def Line.Inhabited (line : Line) : Prop := ∀ c ∈ line.classes, c.chars ≠ []

/-- Classes of one channel denote equally many characters, apart from those that denote just one. -/
def Line.LengthsAgree (line : Line) : Prop :=
  ∀ c ∈ line.classes, ∀ d ∈ line.classes, c.channel = d.channel →
    c.chars.length ≠ 1 → d.chars.length ≠ 1 → c.chars.length = d.chars.length

instance (line : Line) : Decidable line.LengthsAgree :=
  inferInstanceAs (Decidable (∀ c ∈ line.classes, ∀ d ∈ line.classes, _ → _ → _ → _))

/-- The length of the longest class of a channel, or one if it has no class. -/
def Line.span (line : Line) (channel : Channel) : Nat :=
  ((line.classes.filter (·.channel = channel)).map (·.chars.length)).max?.getD 1

/-- Where the channels stand in the `k`-th combination. The square one moves faster. -/
def Line.positions (line : Line) (k : Nat) : Channel → Nat
  | .square => k % line.span .square
  | .curly => k / line.span .square

/-- The character of a class at the position of its channel. A class of just one character stays at
it. -/
def Class.at (positions : Channel → Nat) (charClass : Class) : Char :=
  let index := if charClass.chars.length = 1 then 0 else positions charClass.channel
  charClass.chars.getD index Alphabet.blank

def Slot.at (positions : Channel → Nat) : Slot → Char
  | .char c => c
  | .bracketed charClass => charClass.at positions

def State.at (positions : Channel → Nat) : State → String
  | .literal name _ => name
  | .varying front middle back => front ++ (middle.at positions).toString ++ back

/-- The rule of the `k`-th combination, unless its move is none. -/
def Line.ruleAt (line : Line) (number k : Nat) : Except Fault Rule :=
  let positions := line.positions k
  match Direction.ofGlyph? (line.move.at positions) with
  | some direction =>
    .ok ⟨⟨line.startState.at positions, line.startSymbol.at positions⟩,
      ⟨line.destState.at positions, line.destSymbol.at positions, direction⟩, number⟩
  | none => .error (.malformed .move)

/-- The rules of all combinations up to the first one whose move is none. -/
def Line.meaning (line : Line) (number : Nat) : LineOutcome :=
  if line.LengthsAgree then
    let combinations := line.span .square * line.span .curly
    let items := (List.range combinations).map (line.ruleAt number)
    .expanded combinations (upToError items).1 (upToError items).2
  else .rejected .lengthMismatch

/-! ### What is written is what the grammar reads -/

def escapedAtoms (text : String) : List Grammar.Atom := text.toList.map .escaped

def Element.atoms : Element → List Grammar.Atom
  | .single c => [.escaped c]
  | .range low high => [.escaped low, .plain '.', .plain '.', .escaped high]

def Class.tree (charClass : Class) : Grammar.ClassTree where
  channel := charClass.channel
  content := (if charClass.negated then [.plain '^'] else []) ++
    charClass.elements.flatMap Element.atoms

def Slot.tree : Slot → Grammar.SlotTree
  | .char c => .bare [.escaped c]
  | .bracketed charClass => .bracketed charClass.tree

def State.tree : State → Grammar.StateTree
  | .literal name _ => .bare (escapedAtoms name)
  | .varying front middle back => .varying (escapedAtoms front) middle.tree (escapedAtoms back)

def Line.tree (line : Line) : Grammar.LineTree where
  startState := line.startState.tree
  startSymbol := line.startSymbol.tree
  destState := line.destState.tree
  destSymbol := line.destSymbol.tree
  move := line.move.tree

/-- An atom that reads as itself wherever it is written. -/
def Solid : Grammar.Atom → Prop
  | .plain c => Grammar.Ordinary c
  | .escaped _ => True

theorem run_of_solid {lone : Bool} {run : List Grammar.Atom} {rest : List Char}
    (solid : ∀ atom ∈ run, Solid atom) (stops : ¬ Grammar.BeginsAtom lone rest) :
    Grammar.Run lone (Grammar.spelling run ++ rest) run rest := by
  induction run with
  | nil => exact .done stops
  | cons atom run ih =>
    have later := ih fun other member => solid other (.tail _ member)
    cases atom with
    | plain c => exact .plain (solid _ (.head _)) later
    | escaped c => exact .escaped later

theorem spelling_escapedAtoms (text : String) :
    Grammar.spelling (escapedAtoms text) = escape text.toList := by
  simp [Grammar.spelling, escapedAtoms, escape, List.flatMap_map, Grammar.Atom.spelling]

theorem solid_escapedAtoms (text : String) : ∀ atom ∈ escapedAtoms text, Solid atom := by
  simp [escapedAtoms, Solid]

theorem spelling_atoms (elements : List Element) :
    Grammar.spelling (elements.flatMap Element.atoms) = elements.flatMap Element.render := by
  have one (element : Element) : Grammar.spelling element.atoms = element.render := by
    cases element <;> rfl
  simp only [Grammar.spelling, List.flatMap_assoc] at one ⊢
  simp only [one]

theorem solid_atoms (elements : List Element) :
    ∀ atom ∈ elements.flatMap Element.atoms, Solid atom := by
  intro atom member
  obtain ⟨element, -, member⟩ := List.mem_flatMap.mp member
  cases element with
  | single c =>
    obtain rfl := List.mem_singleton.mp member
    trivial
  | range low high =>
    rcases member with _ | ⟨_, _ | ⟨_, _ | ⟨_, _ | ⟨_, ⟨⟩⟩⟩⟩⟩
    · trivial
    · show Grammar.Ordinary '.'
      decide
    · show Grammar.Ordinary '.'
      decide
    · trivial

theorem not_beginsAtom_closing (lone : Bool) (channel : Channel) (text : List Char) :
    ¬ Grammar.BeginsAtom lone (channel.closing :: text) :=
  Grammar.not_beginsAtom_of_special (by cases channel <;> decide) text

theorem not_beginsAtom_opening (lone : Bool) (channel : Channel) (text : List Char) :
    ¬ Grammar.BeginsAtom lone (channel.opening :: text) :=
  Grammar.not_beginsAtom_of_special (by cases channel <;> decide) text

theorem class_render (lone : Bool) (charClass : Class) (rest : List Char) :
    Grammar.Class lone (charClass.render ++ rest) charClass.tree rest := by
  have solid : ∀ atom ∈ charClass.tree.content, Solid atom := by
    intro atom member
    rcases List.mem_append.mp member with negation | member
    · split at negation
      · obtain rfl := List.mem_singleton.mp negation
        show Grammar.Ordinary '^'
        decide
      · cases negation
    · exact solid_atoms charClass.elements atom member
  have run := run_of_solid solid (not_beginsAtom_closing lone charClass.channel rest)
  have spells : charClass.render ++ rest = charClass.channel.opening ::
      (Grammar.spelling charClass.tree.content ++ charClass.channel.closing :: rest) := by
    rw [Class.render, Class.tree, Grammar.spelling, List.flatMap_append]
    have listed := spelling_atoms charClass.elements
    rw [Grammar.spelling] at listed
    rw [listed]
    cases charClass.negated <;> simp [Grammar.Atom.spelling]
  rw [spells]
  exact .closed run

theorem slot_render (lone : Bool) (slot : Slot) {c : Char} {rest : List Char}
    (stops : ¬ Grammar.BeginsAtom lone (c :: rest)) :
    Grammar.Slot lone (slot.render ++ c :: rest) slot.tree (c :: rest) := by
  cases slot with
  | char d => exact .bare (.escaped (.done stops)) (List.cons_ne_nil _ _)
  | bracketed charClass => exact .bracketed (class_render lone charClass _)

theorem state_render (lone : Bool) (state : State) {c : Char} {rest : List Char}
    (stops : ¬ Grammar.BeginsAtom lone (c :: rest)) :
    Grammar.State lone (state.render ++ c :: rest) state.tree (c :: rest) := by
  cases state with
  -- A state without a class must not be empty.
  | literal name nonempty =>
    rw [State.render, ← spelling_escapedAtoms]
    refine .bare (run_of_solid (solid_escapedAtoms name) stops) ?_
    simpa [escapedAtoms] using nonempty
  | varying front middle back =>
    have opening := not_beginsAtom_opening lone middle.channel
    simp only [State.render, ← spelling_escapedAtoms, List.append_assoc]
    refine .varying (run_of_solid (solid_escapedAtoms front) ?_) (class_render lone middle _)
      (run_of_solid (solid_escapedAtoms back) stops)
    rw [Class.render]
    exact opening _

/-! No field begins with a blank. -/

theorem visible_opening (channel : Channel) : RuleLine.isBlank channel.opening = false := by
  cases channel <;> rfl

theorem blanks_slot (slot : Slot) (rest : List Char) :
    Grammar.Blanks (slot.render ++ rest) (slot.render ++ rest) := by
  cases slot with
  | char c => exact Grammar.blanks_cons rfl _
  | bracketed charClass => exact Grammar.blanks_cons (visible_opening _) _

theorem blanks_state (state : State) (rest : List Char) :
    Grammar.Blanks (state.render ++ rest) (state.render ++ rest) := by
  cases state with
  | literal name nonempty =>
    rcases chars : name.toList with _ | ⟨c, text⟩
    · exact absurd (by simpa using chars) nonempty
    · rw [State.render, chars]
      exact Grammar.blanks_cons rfl _
  | varying front middle back =>
    rw [State.render]
    rcases front.toList with _ | ⟨c, text⟩
    · exact Grammar.blanks_cons (visible_opening _) _
    · exact Grammar.blanks_cons rfl _

theorem padded_slot (lone : Bool) (slot : Slot) {c : Char} {rest : List Char}
    (key : RuleLine.isKey c = true) (visible : RuleLine.isBlank c = false) :
    Grammar.Padded (Grammar.Slot lone) (slot.render ++ c :: rest) slot.tree (c :: rest) :=
  ⟨_, _, blanks_slot slot _,
    slot_render lone slot (Grammar.not_beginsAtom_of_special (by simp [key]) rest),
    Grammar.blanks_cons visible rest⟩

theorem padded_state (lone : Bool) (state : State) {c : Char} {rest : List Char}
    (key : RuleLine.isKey c = true) (visible : RuleLine.isBlank c = false) :
    Grammar.Padded (Grammar.State lone) (state.render ++ c :: rest) state.tree (c :: rest) :=
  ⟨_, _, blanks_state state _,
    state_render lone state (Grammar.not_beginsAtom_of_special (by simp [key]) rest),
    Grammar.blanks_cons visible rest⟩

/-- What is written is a rule line, whatever begins a comment. -/
theorem line_render (lone : Bool) (marker : Char) (line : Line) :
    Grammar.Line lone marker line.render.toList line.tree := by
  have text : line.render.toList = '(' :: (line.startState.render ++
      ',' :: (line.startSymbol.render ++ ',' :: (line.destState.render ++
      ',' :: (line.destSymbol.render ++ ',' :: (line.move.render ++ [')']))))) := by
    simp [Line.render]
  rw [text]
  exact .parenthesized (Grammar.blanks_cons rfl _)
    (.separated (padded_state lone _ rfl rfl) (padded_slot lone _ rfl rfl)
      (padded_state lone _ rfl rfl) (padded_slot lone _ rfl rfl) (padded_slot lone _ rfl rfl))
    ⟨[], (Grammar.blanks_iff _ _).mpr rfl, .inl rfl⟩

end TuringScript.Printing
