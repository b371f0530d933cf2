import TuringScript.CharClass.Basic
import TuringScript.Error

/-!
# Rule templates

The five fields of a rule line, each standing for one or many alternatives. Within a channel all
classes must offer equally many alternatives; a class with exactly one is constant and fits any
other.
-/
namespace TuringScript

/-- A state field over any kind of slot: a fixed name, or a slot between two fixed texts. -/
inductive StateField (α : Type) where
  | literal (name : String)
  | varying (front : String) (middle : α) (back : String)
  deriving DecidableEq, Repr

namespace StateField

def map (f : α → β) : StateField α → StateField β
  | .literal name => .literal name
  | .varying front middle back => .varying front (f middle) back

def toList : StateField α → List α
  | .literal _ => []
  | .varying _ middle _ => [middle]

theorem toList_map (f : α → β) (field : StateField α) :
    (field.map f).toList = field.toList.map f := by
  cases field <;> rfl

end StateField

/-- The five fields of a rule over any kind of slot. -/
structure RuleFields (α : Type) where
  startState : StateField α
  startSymbol : α
  destState : StateField α
  destSymbol : α
  move : α
  deriving DecidableEq, Repr

namespace RuleFields

def map (f : α → β) (fields : RuleFields α) : RuleFields β where
  startState := fields.startState.map f
  startSymbol := f fields.startSymbol
  destState := fields.destState.map f
  destSymbol := f fields.destSymbol
  move := f fields.move

/-- The slots in the order in which they are written. -/
def toList (fields : RuleFields α) : List α :=
  fields.startState.toList ++ fields.startSymbol :: fields.destState.toList ++
    [fields.destSymbol, fields.move]

theorem toList_map (f : α → β) (fields : RuleFields α) :
    (fields.map f).toList = fields.toList.map f := by
  simp [map, toList, StateField.toList_map]

end RuleFields

/-- Whether the class takes part in counting through the alternatives of `channel`. -/
def CharClass.counts (channel : Channel) (charClass : CharClass) : Bool :=
  charClass.channel == some channel && 1 < charClass.size

/-- The sizes in `channel` that have to agree: all but that of a constant. -/
def RuleFields.sizesIn (fields : RuleFields CharClass) (channel : Channel) : List Nat :=
  (fields.toList.filter fun c => c.channel == some channel && c.size != 1).map CharClass.size

def RuleFields.sizesAgree (fields : RuleFields CharClass) : Bool :=
  Channel.all.all fun channel =>
    match fields.sizesIn channel with
    | [] => true
    | size :: sizes => sizes.all (· == size)

structure RuleTemplate where
  fields : RuleFields CharClass
  line : Nat
  deriving DecidableEq, Repr

def RuleTemplate.ofFields (fields : RuleFields CharClass) (line : Nat) :
    Except Fault RuleTemplate :=
  if fields.sizesAgree then .ok ⟨fields, line⟩ else .error .lengthMismatch

end TuringScript
