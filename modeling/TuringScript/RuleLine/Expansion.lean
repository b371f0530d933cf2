import TuringScript.CharClass.Cursor
import TuringScript.RuleLine.Template
import TuringScript.Rule

/-!
# Expansion

A template is expanded by a counter with one digit for each channel. All counting classes of a
channel move together; when they run out they start again and the next channel moves. Enumeration
ends after the last combination, or with the first one that does not read as a rule.
-/
namespace TuringScript

structure Expansion where
  cursors : RuleFields ClassCursor
  line : Nat
  finished : Bool
  deriving DecidableEq, Repr

namespace Expansion

def ofTemplate (template : RuleTemplate) : Expansion :=
  ⟨template.fields.map ClassCursor.ofClass, template.line, false⟩

/-- The number of rules of the whole enumeration, wherever it stands. -/
def combinations (expansion : Expansion) : Nat :=
  let classes := expansion.cursors.toList.map ClassCursor.source
  (Channel.all.filterMap fun channel =>
    (classes.find? (·.counts channel)).map CharClass.size).foldl (· * ·) 1

/-! ### Reading a combination -/

def readState? : StateField ClassCursor → Option String
  | .literal name => some name
  | .varying front middle back =>
    middle.char?.map fun c => front ++ c.toString ++ back

/-- The rule at the present positions. The first field that cannot be read is at fault. -/
def current (expansion : Expansion) : Except Fault Rule := do
  let cursors := expansion.cursors
  let state ← Field.startState.wellFormed (readState? cursors.startState)
  let symbol ← Field.startSymbol.wellFormed cursors.startSymbol.symbol?
  let nextState ← Field.destState.wellFormed (readState? cursors.destState)
  let write ← Field.destSymbol.wellFormed cursors.destSymbol.symbol?
  let direction ← Field.move.wellFormed (cursors.move.char?.bind Direction.ofGlyph?)
  return ⟨⟨state, symbol⟩, ⟨nextState, write, direction⟩, expansion.line⟩

/-! ### Counting -/

def isPending (channel : Channel) (cursor : ClassCursor) : Bool :=
  cursor.source.counts channel && !cursor.atEnd

def advanceChannel (channel : Channel) (cursors : RuleFields ClassCursor) :
    RuleFields ClassCursor :=
  cursors.map fun cursor => if isPending channel cursor then cursor.next else cursor

/-- Whether some class of the channel has another alternative to move to. -/
def canAdvance (channel : Channel) (cursors : RuleFields ClassCursor) : Bool :=
  cursors.toList.any fun cursor => isPending channel cursor && cursor.advance.1

def resetChannel (cursors : RuleFields ClassCursor) (channel : Channel) :
    RuleFields ClassCursor :=
  cursors.map fun cursor =>
    if cursor.source.counts channel && cursor.atEnd then cursor.reset else cursor

/-- Moves the first channel that can move and starts the ones before it again. -/
def carry (lower : List Channel) (cursors : RuleFields ClassCursor) :
    List Channel → Option (RuleFields ClassCursor)
  | [] => none
  | channel :: higher =>
    let moved := advanceChannel channel cursors
    if canAdvance channel cursors then some (lower.foldl resetChannel moved)
    else carry (lower ++ [channel]) moved higher

/-- The next item and the enumeration after it; nothing once it has ended. -/
def next? (expansion : Expansion) : Option (Except Fault Rule × Expansion) :=
  if expansion.finished then none
  else match expansion.current with
    | .error fault => some (.error fault, { expansion with finished := true })
    | .ok rule =>
      match carry [] expansion.cursors Channel.all with
      | some cursors => some (.ok rule, { expansion with cursors := cursors })
      | none => some (.ok rule, { expansion with finished := true })

/-! ### Enumerating -/

/-- The rules of an enumeration, the fault that ended it, if any, and where it came to rest. -/
structure Enumeration where
  rules : List Rule
  fault : Option Fault
  rest : Expansion

/-- At most `count` items. -/
def take : Nat → Expansion → Enumeration
  | 0, expansion => ⟨[], none, expansion⟩
  | count + 1, expansion =>
    match expansion.next? with
    | none => ⟨[], none, expansion⟩
    | some (.error fault, rest) => ⟨[], some fault, rest⟩
    | some (.ok rule, rest) =>
      let later := take count rest
      ⟨rule :: later.rules, later.fault, later.rest⟩

/-- All items. There are at most as many as there are combinations. -/
def enumerate (expansion : Expansion) : Enumeration :=
  take expansion.combinations expansion

end Expansion
end TuringScript
