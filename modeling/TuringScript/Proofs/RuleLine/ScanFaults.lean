import TuringScript.Proofs.RuleLine.Scanning

/-!
# Faults of scanning

Which faults the scanners of a rule line can report. A fault of the move is reported in one case
only: the move opens a class that is not closed.
-/
namespace TuringScript

theorem bind_eq_error_iff {ε α β : Type} {first : Except ε α} {next : α → Except ε β} {e : ε} :
    first >>= next = .error e ↔
      first = .error e ∨ ∃ middle, first = .ok middle ∧ next middle = .error e := by
  cases first with
  | error other => simp [bind, Except.bind]
  | ok middle => simp [bind, Except.bind]

namespace RuleLine

/-- After blanks a class is opened, and the run of its content does not stop at the closing
delimiter. -/
def Unclosed (text : List Char) : Prop :=
  ∃ (channel : Channel) (body : List Char), skipBlanks text = channel.opening :: body ∧
    (scanRun body).2.head? ≠ some channel.closing

/-! ### Single scanners -/

theorem readClass_eq_error_iff (field : Field) (channel : Channel) (text : List Char)
    (fault : Fault) :
    readClass field channel text = .error fault ↔
      fault = .malformed field ∧ (scanRun text).2.head? ≠ some channel.closing := by
  rcases scanned : scanRun text with ⟨content, _ | ⟨c, rest⟩⟩
  · simp [readClass, scanned, eq_comm]
  · by_cases closes : c = channel.closing <;> simp [readClass, scanned, closes, eq_comm]

theorem fault_of_readState {field : Field} {text : List Char} {fault : Fault}
    (failed : readState field text = .error fault) :
    fault = .unexpectedEnd ∨ fault = .malformed field := by
  rcases scanned : scanRun (skipBlanks text) with ⟨front, _ | ⟨c, rest⟩⟩
  · simp only [readState, scanned, Except.error.injEq] at failed
    exact .inl failed.symm
  · cases opens : Channel.ofOpening? c with
    | none => simp [readState, scanned, opens] at failed
    | some channel =>
      simp only [readState, scanned, opens, bind_eq_error_iff, readClass_eq_error_iff] at failed
      -- Behind the class only a run is read, and reading a run cannot fail.
      rcases failed with ⟨malformed, -⟩ | ⟨_, -, never⟩
      · exact .inr malformed
      · cases never

theorem readField_eq_error_iff (field : Field) (text : List Char) (fault : Fault) :
    readField field text = .error fault ↔ fault = .malformed field ∧ Unclosed text := by
  unfold readField Unclosed
  cases opens : (skipBlanks text).head?.bind Channel.ofOpening? with
  | none =>
    simp only [opens, reduceCtorEq, false_iff, not_and]
    rintro - ⟨channel, body, begins, -⟩
    rw [begins] at opens
    simp [Channel.ofOpening?_opening] at opens
  | some channel =>
    obtain ⟨c, first, opens'⟩ := Option.bind_eq_some_iff.mp opens
    obtain ⟨body, begins⟩ := List.head?_eq_some_iff.mp first
    rw [Grammar.ofOpening?_eq_some opens'] at begins
    simp only [begins, List.head?_cons, Option.bind_some, Channel.ofOpening?_opening,
      List.tail_cons, bind_eq_error_iff, readClass_eq_error_iff]
    constructor
    · rintro (⟨malformed, unclosed⟩ | ⟨_, -, never⟩)
      · exact ⟨malformed, channel, body, rfl, unclosed⟩
      · cases never
    · rintro ⟨malformed, other, text, same, unclosed⟩
      -- The delimiter tells the channel.
      obtain ⟨opening, rfl⟩ := List.cons.inj same
      have agree := Channel.ofOpening?_opening other
      rw [← opening, Channel.ofOpening?_opening] at agree
      cases agree
      exact .inl ⟨malformed, unclosed⟩

theorem fault_of_expectComma {text : List Char} {fault : Fault}
    (failed : expectComma text = .error fault) : fault = .missingComma := by
  unfold expectComma at failed
  split at failed <;> cases failed
  rfl

theorem fault_of_closeRule {parenthesized : Bool} {text : List Char} {fault : Fault}
    (failed : closeRule parenthesized text = .error fault) : fault = .missingClosing := by
  unfold closeRule at failed
  dsimp only at failed
  split at failed
  · split at failed <;> cases failed
    rfl
  · cases failed

theorem fault_of_endRule {marker : Char} {text : List Char} {fault : Fault}
    (failed : endRule marker text = .error fault) : fault = .trailingData := by
  unfold endRule at failed
  split at failed
  · cases failed
  · split at failed <;> cases failed
    rfl

/-! ### Whole lines -/

/-- The text of a rule line from its move on, which is what follows the fourth comma. -/
def textFromMove (text : List Char) : Except Fault (List Char) := do
  let (_, text) ← readState .startState (openRule text).2
  let text ← expectComma text
  let (_, text) ← readField .startSymbol text
  let text ← expectComma text
  let (_, text) ← readState .destState text
  let text ← expectComma text
  let (_, text) ← readField .destSymbol text
  expectComma text

theorem textFromMove_of_readFields {marker : Char} {text : List Char} {texts : FieldTexts}
    (cut : readFields marker text = .ok texts) :
    ∃ fromMove rest, textFromMove text = .ok fromMove ∧
      readField .move fromMove = .ok (texts.move, rest) := by
  simp only [Grammar.readFields_eq, bind_eq_ok_iff] at cut
  obtain ⟨⟨a, restA⟩, readA, textA, commaA, ⟨b, restB⟩, readB, textB, commaB, ⟨c, restC⟩, readC,
    textC, commaC, ⟨d, restD⟩, readD, textD, commaD, ⟨e, restE⟩, readE, stop, -, -, -, same⟩ := cut
  cases same
  refine ⟨textD, restE, ?_, readE⟩
  simp only [textFromMove, readA, commaA, readB, commaB, readC, commaC, readD, commaD, bind,
    Except.bind]

/-- Four fields have been read when the scanners report a fault of the move. -/
theorem unclosed_of_readFields {marker : Char} {text : List Char}
    (failed : readFields marker text = .error (.malformed .move)) :
    ∃ fromMove, textFromMove text = .ok fromMove ∧ Unclosed fromMove := by
  simp only [Grammar.readFields_eq, bind_eq_error_iff] at failed
  -- Each scanner on the way reports faults of another kind or of another field.
  rcases failed with failed | ⟨⟨a, restA⟩, readA, failed⟩
  · simpa using fault_of_readState failed
  rcases failed with failed | ⟨textA, commaA, failed⟩
  · simpa using fault_of_expectComma failed
  rcases failed with failed | ⟨⟨b, restB⟩, readB, failed⟩
  · simp [readField_eq_error_iff] at failed
  rcases failed with failed | ⟨textB, commaB, failed⟩
  · simpa using fault_of_expectComma failed
  rcases failed with failed | ⟨⟨c, restC⟩, readC, failed⟩
  · simpa using fault_of_readState failed
  rcases failed with failed | ⟨textC, commaC, failed⟩
  · simpa using fault_of_expectComma failed
  rcases failed with failed | ⟨⟨d, restD⟩, readD, failed⟩
  · simp [readField_eq_error_iff] at failed
  rcases failed with failed | ⟨textD, commaD, failed⟩
  · simpa using fault_of_expectComma failed
  rcases failed with failed | ⟨⟨e, restE⟩, -, failed⟩
  · refine ⟨textD, ?_, ((readField_eq_error_iff _ _ _).mp failed).2⟩
    simp only [textFromMove, readA, commaA, readB, commaB, readC, commaC, readD, commaD, bind,
      Except.bind]
  rcases failed with failed | ⟨rest, -, failed⟩
  · simpa using fault_of_closeRule failed
  rcases failed with failed | ⟨_, -, never⟩
  · simpa using fault_of_endRule failed
  · cases never

end RuleLine
end TuringScript
