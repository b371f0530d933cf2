import TuringScript.Proofs.RuleLine.Atoms
import TuringScript.Proofs.RuleLine.Scanning

/-!
# The spans of a rule line

A rule line is cut by a position that moves over its text. What comes of it are the spans of the
fields and of their parts; their texts are the field texts, and the faults are the same. The
position always moves over whole atoms.
-/
namespace TuringScript.Indexed

open Grammar
open RuleLine (isBlank isKey ClassText StateText FieldText FieldTexts)

/-! ### Moving over a text -/

theorem lt_length_of_any {text : List Char} {position : Nat} {holds : Char → Bool}
    (found : text[position]?.any holds) : position < text.length := by
  obtain ⟨c, found, -⟩ := (Option.any_eq_true holds _).mp found
  exact (List.getElem?_eq_some_iff.mp found).1

def skipBlanks (text : List Char) (position : Nat) : Nat :=
  if _ : text[position]?.any isBlank then skipBlanks text (position + 1) else position
termination_by text.length - position
decreasing_by
  have inside := lt_length_of_any ‹_›
  omega

/-- Behind a character, or behind an escape and the character that it protects. -/
def stepOver (text : List Char) (position : Nat) : Nat :=
  min (position + if text[position]? = some '\\' then 2 else 1) text.length

theorem lt_stepOver {text : List Char} {position : Nat} (inside : position < text.length) :
    position < stepOver text position := by
  unfold stepOver
  split <;> omega

/-- Where the longest run from a position on ends. -/
def scanRun (text : List Char) (position : Nat) : Nat :=
  if _ : text[position]?.any fun c => !isBlank c && !isKey c then
    scanRun text (stepOver text position)
  else position
termination_by text.length - position
decreasing_by
  have inside := lt_length_of_any ‹_›
  have further := lt_stepOver inside
  omega

/-! ### Fields -/

/-- A state: a run, and perhaps a class with its delimiters and a run behind it. -/
structure StateSpans where
  front : Span
  varying : Option (Span × Span)
  deriving DecidableEq, Repr

/-- The spans of the fields, absent where a field was left empty, and where the commas between the
fields are. -/
structure LineSpans where
  startState : Option StateSpans
  startSymbol : Option Span
  destState : Option StateSpans
  destSymbol : Option Span
  move : Option Span
  commas : List Nat
  deriving DecidableEq, Repr

namespace StateSpans

/-- The spans of runs. -/
def runs (state : StateSpans) : List Span := state.front :: state.varying.toList.map Prod.snd

def classes (state : StateSpans) : List Span := state.varying.toList.map Prod.fst

end StateSpans

namespace LineSpans

def states (spans : LineSpans) : List StateSpans :=
  spans.startState.toList ++ spans.destState.toList

/-- The spans of symbols and of the move. -/
def slots (spans : LineSpans) : List Span :=
  spans.startSymbol.toList ++ spans.destSymbol.toList ++ spans.move.toList

def all (spans : LineSpans) : List Span :=
  spans.states.flatMap (fun state => state.runs ++ state.classes) ++ spans.slots

end LineSpans

/-- From behind the opening delimiter of a class to behind the closing one. -/
def readClass (field : Field) (channel : Channel) (text : List Char) (position : Nat) :
    Except Fault Nat :=
  let stop := scanRun text position
  if text[stop]? = some channel.closing then .ok (stop + 1) else .error (.malformed field)

def readState (field : Field) (text : List Char) (position : Nat) :
    Except Fault (Option StateSpans × Nat) :=
  let start := skipBlanks text position
  let stop := scanRun text start
  if text.length ≤ stop then .error .unexpectedEnd
  else
    match text[stop]?.bind Channel.ofOpening? with
    | none => .ok (if start < stop then some ⟨⟨start, stop⟩, none⟩ else none, stop)
    | some channel => do
      let close ← readClass field channel text (stop + 1)
      let back := scanRun text close
      return (some ⟨⟨start, stop⟩, some (⟨stop, close⟩, ⟨close, back⟩)⟩, back)

def readField (field : Field) (text : List Char) (position : Nat) :
    Except Fault (Option Span × Nat) :=
  let start := skipBlanks text position
  match text[start]?.bind Channel.ofOpening? with
  | some channel => do
    let stop ← readClass field channel text (start + 1)
    return (some ⟨start, stop⟩, stop)
  | none =>
    let stop := scanRun text start
    .ok (if start ≠ stop then some ⟨start, stop⟩ else none, stop)

/-- Where the comma is that has to be next. -/
def expectComma (text : List Char) (position : Nat) : Except Fault Nat :=
  let comma := skipBlanks text position
  if text[comma]? = some ',' then .ok comma else .error .missingComma

def openRule (text : List Char) : Bool × Nat :=
  let start := skipBlanks text 0
  if text[start]? = some '(' then (true, start + 1) else (false, start)

def closeRule (parenthesized : Bool) (text : List Char) (position : Nat) : Except Fault Nat :=
  let position := skipBlanks text position
  if parenthesized then
    if text[position]? = some ')' then .ok (position + 1) else .error .missingClosing
  else .ok position

def endRule (commentMarker : Char) (text : List Char) (position : Nat) : Except Fault Unit :=
  if text[skipBlanks text position]?.any (· != commentMarker) then .error .trailingData else .ok ()

def readSpans (commentMarker : Char) (text : List Char) : Except Fault LineSpans := do
  let (parenthesized, position) := openRule text
  let (startState, position) ← readState .startState text position
  let first ← expectComma text position
  let (startSymbol, position) ← readField .startSymbol text (first + 1)
  let second ← expectComma text position
  let (destState, position) ← readState .destState text (second + 1)
  let third ← expectComma text position
  let (destSymbol, position) ← readField .destSymbol text (third + 1)
  let fourth ← expectComma text position
  let (move, position) ← readField .move text (fourth + 1)
  let position ← closeRule parenthesized text position
  endRule commentMarker text position
  return ⟨startState, startSymbol, destState, destSymbol, move, [first, second, third, fourth]⟩

/-! ### Runs and blanks -/

variable {text : List Char} {position : Nat}

theorem cons_of_drop {c : Char} {later : List Char} (ahead : text.drop position = c :: later) :
    text[position]? = some c ∧ later = text.drop (position + 1) := by
  have found : text[position]? = some c := by rw [← List.head?_drop, ahead, List.head?_cons]
  rw [drop_of_getElem? found] at ahead
  exact ⟨found, (List.cons.inj ahead).2.symm⟩

theorem skipBlanks_spec (within : position ≤ text.length) :
    ∃ run, Spells text position run (skipBlanks text position) ∧
      RuleLine.skipBlanks (text.drop position) = text.drop (skipBlanks text position) := by
  fun_induction skipBlanks text position with
  | case1 position blank ih =>
    obtain ⟨c, found, isBlank⟩ := (Option.any_eq_true _ _).mp blank
    have visible : c ≠ '\\' := by
      rintro rfl
      exact absurd isBlank (by decide)
    have first := spells_visible found visible
    obtain ⟨run, spells, skipped⟩ := ih first.within
    refine ⟨_, first.trans spells, ?_⟩
    rw [drop_of_getElem? found, RuleLine.skipBlanks, List.dropWhile_cons_of_pos isBlank]
    exact skipped
  | case2 position stops =>
    refine ⟨[], .refl within, ?_⟩
    cases ahead : text.drop position with
    | nil => rfl
    | cons c later =>
      rw [(cons_of_drop ahead).1] at stops
      exact List.dropWhile_cons_of_neg stops

theorem stepOver_escaped {c : Char} (escape : text[position]? = some '\\')
    (found : text[position + 1]? = some c) : stepOver text position = position + 2 := by
  have inside := (List.getElem?_eq_some_iff.mp found).1
  rw [stepOver, if_pos escape]
  omega

theorem stepOver_plain {c : Char} (found : text[position]? = some c)
    (single : c = '\\' → text.length ≤ position + 1) :
    stepOver text position = position + 1 := by
  have inside := (List.getElem?_eq_some_iff.mp found).1
  rw [stepOver, found]
  split
  next escape =>
    have last := single (Option.some.inj escape)
    omega
  next => omega

theorem scanRun_plain {c : Char} {rest : List Char} (regular : (!isBlank c && !isKey c) = true)
    (single : c = '\\' → rest = []) :
    RuleLine.scanRun (c :: rest) =
      (c :: (RuleLine.scanRun rest).1, (RuleLine.scanRun rest).2) := by
  rw [RuleLine.scanRun, if_neg (by simpa using regular)]
  rintro d later rfl rfl
  cases single rfl

theorem scanRun_stopped {c : Char} {rest : List Char} (stops : ¬ (!isBlank c && !isKey c) = true) :
    RuleLine.scanRun (c :: rest) = ([], c :: rest) := by
  have special : (isBlank c || isKey c) = true := by simpa [Decidable.imp_iff_not_or] using stops
  exact scanRun_of_not_beginsAtom (not_beginsAtom_of_special special rest)

theorem scanRun_spec (within : position ≤ text.length) :
    ∃ run, Spells text position run (scanRun text position) ∧
      RuleLine.scanRun (text.drop position) = (spelling run, text.drop (scanRun text position)) := by
  -- Atom by atom: an escape and what it protects are one step of either scanner.
  fun_induction scanRun text position with
  | case1 position goes ih =>
    obtain ⟨c, found, regular⟩ := (Option.any_eq_true _ _).mp goes
    by_cases single : c = '\\' → text.length ≤ position + 1
    · rw [stepOver_plain found single] at ih ⊢
      have first := spells_plain found single
      obtain ⟨run, spells, scanned⟩ := ih first.within
      refine ⟨_, first.trans spells, ?_⟩
      have alone : c = '\\' → text.drop (position + 1) = [] :=
        fun escape => List.drop_eq_nil_of_le (single escape)
      rw [drop_of_getElem? found, scanRun_plain regular alone, scanned]
      rfl
    · obtain ⟨rfl, more⟩ := Classical.not_imp.mp single
      have follows : text[position + 1]? = some text[position + 1] :=
        List.getElem?_eq_getElem (Nat.not_le.mp more)
      rw [stepOver_escaped found follows] at ih ⊢
      have first := spells_escaped found follows
      obtain ⟨run, spells, scanned⟩ := ih first.within
      refine ⟨_, first.trans spells, ?_⟩
      rw [drop_of_getElem? found, drop_of_getElem? follows, scanRun_escaped, scanned]
      rfl
  | case2 position stops =>
    refine ⟨[], .refl within, ?_⟩
    cases ahead : text.drop position with
    | nil => rfl
    | cons c later =>
      rw [(cons_of_drop ahead).1] at stops
      exact scanRun_stopped stops

/-! ### From one atom to another -/

/-- Whole atoms lead from one position to the other. -/
def Leads (text : List Char) (start stop : Nat) : Prop := ∃ run, Spells text start run stop

namespace Leads

variable {start middle stop : Nat}

theorem trans (first : Leads text start middle) (second : Leads text middle stop) :
    Leads text start stop := by
  obtain ⟨run, spells⟩ := first
  obtain ⟨later, further⟩ := second
  exact ⟨_, spells.trans further⟩

theorem within (leads : Leads text start stop) : Span.Within text ⟨start, stop⟩ := by
  obtain ⟨run, spells⟩ := leads
  exact ⟨spells.le, spells.within⟩

theorem plain {c : Char} (found : text[position]? = some c) (visible : c ≠ '\\') :
    Leads text position (position + 1) :=
  ⟨_, spells_visible found visible⟩

end Leads

theorem leads_skipBlanks (within : position ≤ text.length) :
    Leads text position (skipBlanks text position) := by
  obtain ⟨run, spells, -⟩ := skipBlanks_spec within
  exact ⟨run, spells⟩

theorem leads_scanRun (within : position ≤ text.length) :
    Leads text position (scanRun text position) := by
  obtain ⟨run, spells, -⟩ := scanRun_spec within
  exact ⟨run, spells⟩

end TuringScript.Indexed
