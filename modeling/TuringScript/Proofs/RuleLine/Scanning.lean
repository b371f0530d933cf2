import Mathlib.Tactic.ByContra
import Mathlib.Tactic.Tauto
import TuringScript.Proofs.RuleLine.Grammar

/-!
# Scanning

Every scanner of a rule line reads exactly what the grammar says, an escape at the end of the line
counting as an atom. For each one there is a lemma in either direction: what it returns has a
reading, and what has a reading it returns.
-/
namespace TuringScript

theorem bind_eq_ok_iff {ε α β : Type} {first : Except ε α} {next : α → Except ε β} {value : β} :
    first >>= next = .ok value ↔ ∃ middle, first = .ok middle ∧ next middle = .ok value := by
  cases first with
  | error e => simp [bind, Except.bind]
  | ok middle => simp [bind, Except.bind]

theorem map_eq_ok_iff {ε α β : Type} {first : Except ε α} {f : α → β} {value : β} :
    f <$> first = .ok value ↔ ∃ middle, first = .ok middle ∧ f middle = value := by
  cases first with
  | error fault => simp [Functor.map, Except.map]
  | ok middle => simp [Functor.map, Except.map]

namespace Grammar

open RuleLine

/-! ### Runs -/

theorem ordinary_iff (c : Char) :
    Ordinary c ↔ isBlank c = false ∧ isKey c = false ∧ c ≠ '\\' := by
  simp [Ordinary, isBlank, isKey, and_assoc, and_left_comm]
  tauto

theorem scanRun_escaped (c : Char) (text : List Char) :
    scanRun ('\\' :: c :: text) = ('\\' :: c :: (scanRun text).1, (scanRun text).2) := rfl

theorem scanRun_ordinary {c : Char} (ordinary : Ordinary c) (text : List Char) :
    scanRun (c :: text) = (c :: (scanRun text).1, (scanRun text).2) := by
  obtain ⟨blank, key, plain⟩ := (ordinary_iff c).mp ordinary
  rw [scanRun, if_neg (by simp [blank, key])]
  rintro d rest rfl
  exact absurd rfl plain

theorem scanRun_of_not_beginsAtom {text : List Char} (stops : ¬ BeginsAtom true text) :
    scanRun text = ([], text) := by
  rcases text with _ | ⟨c, text⟩
  · rfl
  · have escape : c ≠ '\\' := by
      rintro rfl
      rcases text with _ | ⟨d, text⟩
      · exact stops (.last rfl)
      · exact stops (.escaped d text)
    have special : (isBlank c || isKey c) = true := by
      by_contra open_
      have ordinary : Ordinary c := (ordinary_iff c).mpr (by simp_all)
      exact stops (.plain c text ordinary)
    rw [scanRun, if_pos special]
    rintro d rest rfl
    exact absurd rfl escape

theorem not_beginsAtom_of_special {lone : Bool} {c : Char} (special : (isBlank c || isKey c) = true)
    (text : List Char) : ¬ BeginsAtom lone (c :: text) := by
  rintro (⟨d, rest⟩ | ⟨_, _, ordinary⟩ | counts)
  · exact absurd special (by decide)
  · obtain ⟨blank, key, -⟩ := (ordinary_iff c).mp ordinary
    simp [blank, key] at special
  · exact absurd special (by decide)

theorem not_beginsAtom_nil (lone : Bool) : ¬ BeginsAtom lone [] := nofun

theorem scanRun_of_run {text rest : List Char} {run : List Atom} (reads : Run true text run rest) :
    scanRun text = (spelling run, rest) := by
  -- One case for each way to read an atom; maximality is what makes the scanner stop.
  induction reads with
  | done maximal => exact scanRun_of_not_beginsAtom maximal
  | escaped _ ih =>
    rw [scanRun_escaped, ih]
    rfl
  | plain ordinary _ ih =>
    rw [scanRun_ordinary ordinary, ih]
    rfl
  | last => rfl

theorem exists_run (text : List Char) :
    ∃ run, Run true text run (scanRun text).2 ∧ spelling run = (scanRun text).1 := by
  fun_induction scanRun text with
  | case1 => exact ⟨[], .done (not_beginsAtom_nil true), rfl⟩
  | case2 c text run after scanned ih =>
    obtain ⟨atoms, reads, spells⟩ := ih
    rw [scanned] at reads spells
    exact ⟨.escaped c :: atoms, .escaped reads, congrArg ('\\' :: c :: ·) spells⟩
  | case3 c text single special => exact ⟨[], .done (not_beginsAtom_of_special special text), rfl⟩
  | case4 c text single regular run after scanned ih =>
    obtain ⟨atoms, reads, spells⟩ := ih
    rw [scanned] at reads spells
    by_cases escape : c = '\\'
    · subst escape
      -- Only an escape at the end of the text comes to this case.
      rcases text with _ | ⟨d, text⟩
      · cases scanned
        exact ⟨[.plain '\\'], .last rfl, rfl⟩
      · exact absurd rfl (single d text rfl)
    · have ordinary : Ordinary c := (ordinary_iff c).mpr (by simp_all)
      exact ⟨.plain c :: atoms, .plain ordinary reads, congrArg (c :: ·) spells⟩

/-! ### Blanks -/

theorem isBlank_iff (c : Char) : isBlank c = true ↔ c = ' ' ∨ c = '\t' := by
  simp [isBlank]

theorem blanks_iff (text rest : List Char) : Blanks text rest ↔ skipBlanks text = rest := by
  unfold skipBlanks
  constructor
  · rintro ⟨blanks, rfl, all, first⟩
    have skipped : ∀ c ∈ blanks, isBlank c = true := fun c member =>
      (isBlank_iff c).mpr (all c member)
    rw [List.dropWhile_append_of_pos skipped]
    rcases rest with _ | ⟨c, rest⟩
    · rfl
    · obtain ⟨space, tab⟩ := first c rfl
      rw [List.dropWhile_cons_of_neg (by simp [isBlank_iff, space, tab])]
  · rintro rfl
    refine ⟨text.takeWhile isBlank, List.takeWhile_append_dropWhile.symm, ?_, ?_⟩
    · intro c member
      exact (isBlank_iff c).mp (List.all_eq_true.mp List.all_takeWhile c member)
    · intro c first
      have stops := List.head?_dropWhile_not isBlank text
      rw [first] at stops
      simpa [isBlank] using stops

theorem blanks_skipBlanks (text : List Char) : Blanks text (skipBlanks text) :=
  (blanks_iff text _).mpr rfl

theorem blanks_cons {c : Char} (visible : isBlank c = false) (text : List Char) :
    Blanks (c :: text) (c :: text) := by
  rw [blanks_iff]
  exact List.dropWhile_cons_of_neg (by simp [visible])

/-! ### The texts of a tree -/

def ClassTree.text (tree : ClassTree) : ClassText := ⟨tree.channel, spelling tree.content⟩

def StateTree.text : StateTree → StateText
  | .bare run => ⟨spelling run, none⟩
  | .varying front middle back => ⟨spelling front, some (middle.text, spelling back)⟩

def SlotTree.text : SlotTree → FieldText
  | .bare run => .bare (spelling run)
  | .bracketed charClass => .bracketed charClass.text

def LineTree.texts (tree : LineTree) : FieldTexts where
  startState := some tree.startState.text
  startSymbol := some tree.startSymbol.text
  destState := some tree.destState.text
  destSymbol := some tree.destSymbol.text
  move := some tree.move.text

theorem spelling_eq_nil_iff (run : List Atom) : spelling run = [] ↔ run = [] := by
  rcases run with _ | ⟨_ | _, _⟩ <;> simp [spelling, Atom.spelling]

/-! ### Fields -/

theorem readClass_of_class {text rest : List Char} {tree : ClassTree}
    (reads : Class true text tree rest) (field : Field) :
    ∃ body, text = tree.channel.opening :: body ∧
      readClass field tree.channel body = .ok (tree.text, rest) := by
  obtain ⟨run⟩ := reads
  refine ⟨_, rfl, ?_⟩
  rw [readClass, scanRun_of_run run]
  exact if_pos rfl

theorem exists_class {field : Field} {channel : Channel} {body rest : List Char} {text : ClassText}
    (returned : readClass field channel body = .ok (text, rest)) :
    ∃ tree, Class true (channel.opening :: body) tree rest ∧ tree.text = text := by
  obtain ⟨run, reads, spells⟩ := exists_run body
  rcases scanned : scanRun body with ⟨content, _ | ⟨c, after⟩⟩
  · simp [readClass, scanned] at returned
  · rw [scanned] at reads spells
    by_cases closes : c = channel.closing
    · subst closes
      simp only [readClass, scanned, if_true, Except.ok.injEq, Prod.mk.injEq] at returned
      obtain ⟨rfl, rfl⟩ := returned
      exact ⟨⟨channel, run⟩, .closed reads, congrArg (ClassText.mk channel) spells⟩
    · simp [readClass, scanned, closes] at returned

theorem ofOpening?_eq_some {c : Char} {channel : Channel}
    (opens : Channel.ofOpening? c = some channel) : c = channel.opening := by
  unfold Channel.ofOpening? at opens
  split at opens <;> simp_all [Channel.opening] <;> subst opens <;> rfl

theorem exists_state {field : Field} {text rest : List Char} {state : StateText}
    (returned : readState field text = .ok (some state, rest)) :
    ∃ tree, State true (skipBlanks text) tree rest ∧ tree.text = state := by
  obtain ⟨front, before, spells⟩ := exists_run (skipBlanks text)
  rcases scanned : scanRun (skipBlanks text) with ⟨run, _ | ⟨c, after⟩⟩
  · simp [readState, scanned] at returned
  · rw [scanned] at before spells
    change spelling front = run at spells
    cases opens : Channel.ofOpening? c with
    | none =>
      simp only [readState, scanned, opens, Except.ok.injEq, Prod.mk.injEq] at returned
      obtain ⟨filled, rfl⟩ := returned
      split at filled
      · cases filled
      next nonempty =>
        cases filled
        refine ⟨.bare front, .bare before ?_, congrArg (StateText.mk · none) spells⟩
        rintro rfl
        exact nonempty (by simp [← spells, spelling])
    -- A class may stand right at the front, with an empty run before it.
    | some channel =>
      simp only [readState, scanned, opens, bind_eq_ok_iff] at returned
      obtain ⟨⟨classText, rest₁⟩, read, returned⟩ := returned
      obtain ⟨middle, charClass, rfl⟩ := exists_class read
      obtain ⟨back, behind, spells'⟩ := exists_run rest₁
      cases returned
      rw [← ofOpening?_eq_some opens] at charClass
      exact ⟨.varying front middle back, .varying before charClass behind, by
        simp only [StateTree.text, spells, spells']⟩

/-- A text that goes on with blanks and one of these characters does not go on with a class. -/
theorem ofOpening?_of_blanks {c d : Char} {text rest : List Char}
    (follows : Blanks (c :: text) (d :: rest))
    (closed : Channel.ofOpening? d = none) : Channel.ofOpening? c = none := by
  rw [blanks_iff, skipBlanks] at follows
  by_cases blank : isBlank c = true
  · rcases (isBlank_iff c).mp blank with rfl | rfl <;> rfl
  · rw [List.dropWhile_cons_of_neg blank] at follows
    cases follows
    exact closed

theorem readState_of_state {text start stop after : List Char} {tree : StateTree}
    (blanks : Blanks text start) (reads : State true start tree stop)
    (follows : Blanks stop (',' :: after)) (field : Field) :
    readState field text = .ok (some tree.text, stop) := by
  have start_eq := (blanks_iff text start).mp blanks
  cases reads with
  | bare run nonempty =>
    -- The comma that follows keeps the scanner from seeing a class or the end of the line.
    rcases stop with _ | ⟨c, stop⟩
    · simp [blanks_iff, skipBlanks] at follows
    · have plain := ofOpening?_of_blanks follows rfl
      simp [readState, start_eq, scanRun_of_run run, plain, spelling_eq_nil_iff, nonempty,
        StateTree.text]
  | varying before charClass behind =>
    obtain ⟨body, rfl, read⟩ := readClass_of_class charClass field
    simp [readState, start_eq, scanRun_of_run before, Channel.ofOpening?_opening, read,
      scanRun_of_run behind, StateTree.text, bind, Except.bind, pure, Except.pure]

theorem exists_slot {field : Field} {text rest : List Char} {slot : FieldText}
    (returned : readField field text = .ok (some slot, rest)) :
    ∃ tree, Slot true (skipBlanks text) tree rest ∧ tree.text = slot := by
  cases opens : (skipBlanks text).head?.bind Channel.ofOpening? with
  | none =>
    obtain ⟨run, reads, spells⟩ := exists_run (skipBlanks text)
    simp only [readField, opens, Except.ok.injEq, Prod.mk.injEq] at returned
    obtain ⟨filled, rfl⟩ := returned
    split at filled
    · cases filled
    next nonempty =>
      cases filled
      refine ⟨.bare run, .bare reads ?_, congrArg FieldText.bare spells⟩
      rintro rfl
      exact nonempty (by simp [← spells, spelling])
  | some channel =>
    obtain ⟨c, first, opens'⟩ := Option.bind_eq_some_iff.mp opens
    obtain ⟨body, text_eq⟩ := List.head?_eq_some_iff.mp first
    simp only [readField, opens, bind_eq_ok_iff] at returned
    obtain ⟨⟨classText, rest₁⟩, read, returned⟩ := returned
    cases returned
    obtain ⟨charClass, reads, rfl⟩ := exists_class read
    rw [← ofOpening?_eq_some opens', text_eq, List.tail_cons, ← text_eq] at reads
    exact ⟨.bracketed charClass, .bracketed reads, rfl⟩

theorem ofOpening?_of_run {c : Char} {text rest : List Char} {run : List Atom}
    (reads : Run true (c :: text) run rest) (nonempty : run ≠ []) :
    Channel.ofOpening? c = none := by
  cases reads with
  | done => exact absurd rfl nonempty
  | escaped => rfl
  | plain ordinary =>
    obtain ⟨-, key, -⟩ := (ordinary_iff c).mp ordinary
    unfold Channel.ofOpening?
    split <;> simp_all [isKey]
  | last => rfl

theorem readField_of_slot {text start stop : List Char} {tree : SlotTree}
    (blanks : Blanks text start) (reads : Slot true start tree stop) (field : Field) :
    readField field text = .ok (some tree.text, stop) := by
  have start_eq := (blanks_iff text start).mp blanks
  cases reads with
  | bare run nonempty =>
    have plain : start.head?.bind Channel.ofOpening? = none := by
      rcases start with _ | ⟨c, start⟩
      · rfl
      · exact ofOpening?_of_run run nonempty
    simp [readField, start_eq, plain, scanRun_of_run run, spelling_eq_nil_iff, nonempty,
      SlotTree.text]
  | bracketed charClass =>
    obtain ⟨body, rfl, read⟩ := readClass_of_class charClass field
    simp [readField, start_eq, Channel.ofOpening?_opening, read, SlotTree.text, bind, Except.bind,
      pure, Except.pure]

/-! ### Lines -/

theorem expectComma_eq_ok_iff (text rest : List Char) :
    expectComma text = .ok rest ↔ Blanks text (',' :: rest) := by
  rw [blanks_iff, expectComma]
  split <;> simp_all

theorem closeRule_true_eq_ok_iff (text rest : List Char) :
    closeRule true text = .ok rest ↔ Blanks text (')' :: rest) := by
  rw [blanks_iff, closeRule]
  simp only [if_true]
  split <;> simp_all

theorem closeRule_false_eq_ok_iff (text rest : List Char) :
    closeRule false text = .ok rest ↔ Blanks text rest := by
  rw [blanks_iff, closeRule]
  simp

theorem endRule_eq_ok_iff (marker : Char) (text : List Char) :
    endRule marker text = .ok () ↔ Ends marker text := by
  unfold Ends endRule
  simp only [blanks_iff, exists_eq_left']
  rcases skipBlanks text with _ | ⟨c, rest⟩
  · simp
  · by_cases comment : c = marker <;> simp [comment]

/-- The fields of a rule whose parenthesis was opened or not. -/
theorem readFields_eq (marker : Char) (text : List Char) :
    readFields marker text = (do
      let (startState, text₁) ← readState .startState (openRule text).2
      let text₁ ← expectComma text₁
      let (startSymbol, text₂) ← readField .startSymbol text₁
      let text₂ ← expectComma text₂
      let (destState, text₃) ← readState .destState text₂
      let text₃ ← expectComma text₃
      let (destSymbol, text₄) ← readField .destSymbol text₃
      let text₄ ← expectComma text₄
      let (move, rest) ← readField .move text₄
      let rest ← closeRule (openRule text).1 rest
      endRule marker rest
      return ⟨startState, startSymbol, destState, destSymbol, move⟩) := rfl

theorem readFields_of_fields {marker : Char} {text start rest stop : List Char} {tree : LineTree}
    {parenthesized : Bool} (opens : openRule text = (parenthesized, start))
    (fields : Fields true start tree rest)
    (closes : ∀ before, Blanks before rest → closeRule parenthesized before = .ok stop)
    (ends : Ends marker stop) : readFields marker text = .ok tree.texts := by
  obtain ⟨⟨a, a', blanksA, readsA, restA⟩, ⟨b, b', blanksB, readsB, restB⟩,
    ⟨c, c', blanksC, readsC, restC⟩, ⟨d, d', blanksD, readsD, restD⟩,
    ⟨e, e', blanksE, readsE, restE⟩⟩ := fields
  simp only [readFields_eq, opens, readState_of_state blanksA readsA restA,
    (expectComma_eq_ok_iff _ _).mpr restA, readField_of_slot blanksB readsB,
    (expectComma_eq_ok_iff _ _).mpr restB, readState_of_state blanksC readsC restC,
    (expectComma_eq_ok_iff _ _).mpr restC, readField_of_slot blanksD readsD,
    (expectComma_eq_ok_iff _ _).mpr restD, readField_of_slot blanksE readsE, closes e' restE,
    (endRule_eq_ok_iff _ _).mpr ends, bind, Except.bind, pure, Except.pure]
  rfl

theorem openRule_of_blanks {text start : List Char} (blanks : Blanks text ('(' :: start)) :
    openRule text = (true, start) := by
  rw [blanks_iff] at blanks
  simp [openRule, blanks]

theorem openRule_of_no_parenthesis {text start : List Char} (blanks : Blanks text start)
    (absent : start.head? ≠ some '(') : openRule text = (false, start) := by
  rw [blanks_iff] at blanks
  unfold openRule
  rw [blanks]
  split
  · simp at absent
  · rfl

theorem blanks_of_openRule_true {text start : List Char} (opened : openRule text = (true, start)) :
    Blanks text ('(' :: start) := by
  rw [blanks_iff]
  unfold openRule at opened
  split at opened
  next skipped =>
    cases opened
    exact skipped
  · cases opened

theorem blanks_of_openRule_false {text start : List Char}
    (opened : openRule text = (false, start)) : Blanks text start := by
  rw [blanks_iff]
  unfold openRule at opened
  split at opened
  · cases opened
  · cases opened
    rfl

/-- A state does not begin with a parenthesis. -/
theorem head?_ne_of_state {text start rest : List Char} {tree : StateTree}
    (blanks : Blanks text start) (reads : State true start tree rest) :
    text.head? ≠ some '(' := by
  intro first
  obtain ⟨body, rfl⟩ := List.head?_eq_some_iff.mp first
  rw [blanks_iff, skipBlanks, List.dropWhile_cons_of_neg (by decide)] at blanks
  subst blanks
  -- No atom begins with the parenthesis, so a run read there is empty; nor does it open a class.
  have stops : ¬ BeginsAtom true ('(' :: body) := not_beginsAtom_of_special (by decide) body
  have empty {run : List Atom} {after : List Char} (read : Run true ('(' :: body) run after) :
      run = [] ∧ after = '(' :: body := by
    have scanned := scanRun_of_run read
    rw [scanRun_of_not_beginsAtom stops, Prod.mk.injEq] at scanned
    exact ⟨(spelling_eq_nil_iff run).mp scanned.1.symm, scanned.2.symm⟩
  cases reads with
  | bare run nonempty => exact nonempty (empty run).1
  | varying before charClass =>
    rw [(empty before).2] at charClass
    generalize opened : '(' :: body = text at charClass
    cases charClass with
    | @closed channel => cases channel <;> simp [Channel.opening] at opened

/-- What is a rule line is cut into its fields. -/
theorem readFields_of_line {marker : Char} {text : List Char} {tree : LineTree}
    (line : Line true marker text tree) : readFields marker text = .ok tree.texts := by
  cases line with
  | bare blanks fields ends =>
    obtain ⟨⟨start, stop, blanksA, readsA, restA⟩, _⟩ := id fields
    have absent := head?_ne_of_state blanksA readsA
    exact readFields_of_fields (openRule_of_no_parenthesis blanks absent) fields
      (fun before => (closeRule_false_eq_ok_iff before _).mpr) ends
  | parenthesized blanks fields ends =>
    exact readFields_of_fields (openRule_of_blanks blanks) fields
      (fun before => (closeRule_true_eq_ok_iff before _).mpr) ends

/-- What is cut into five fields, none of them empty, is a rule line. -/
theorem exists_line {marker : Char} {text : List Char}
    {startState destState : StateText} {startSymbol destSymbol move : FieldText}
    (returned : readFields marker text =
      .ok ⟨some startState, some startSymbol, some destState, some destSymbol, some move⟩) :
    ∃ tree, Line true marker text tree ∧
      tree.texts =
        ⟨some startState, some startSymbol, some destState, some destSymbol, some move⟩ := by
  simp only [readFields_eq, bind_eq_ok_iff] at returned
  obtain ⟨⟨a, restA⟩, readA, textA, commaA, ⟨b, restB⟩, readB, textB, commaB, ⟨c, restC⟩, readC,
    textC, commaC, ⟨d, restD⟩, readD, textD, commaD, ⟨e, restE⟩, readE, stop, closes, _, ends,
    returned⟩ := returned
  cases returned
  obtain ⟨treeA, readsA, spellsA⟩ := exists_state readA
  obtain ⟨treeB, readsB, spellsB⟩ := exists_slot readB
  obtain ⟨treeC, readsC, spellsC⟩ := exists_state readC
  obtain ⟨treeD, readsD, spellsD⟩ := exists_slot readD
  obtain ⟨treeE, readsE, spellsE⟩ := exists_slot readE
  rw [expectComma_eq_ok_iff] at commaA commaB commaC commaD
  rw [endRule_eq_ok_iff] at ends
  have fields {rest : List Char} (blanks : Blanks restE rest) :
      Fields true (openRule text).2 ⟨treeA, treeB, treeC, treeD, treeE⟩ rest :=
    ⟨⟨_, _, blanks_skipBlanks _, readsA, commaA⟩, ⟨_, _, blanks_skipBlanks _, readsB, commaB⟩,
      ⟨_, _, blanks_skipBlanks _, readsC, commaC⟩, ⟨_, _, blanks_skipBlanks _, readsD, commaD⟩,
      ⟨_, _, blanks_skipBlanks _, readsE, blanks⟩⟩
  refine ⟨⟨treeA, treeB, treeC, treeD, treeE⟩, ?_, by
    simp only [LineTree.texts, spellsA, spellsB, spellsC, spellsD, spellsE]⟩
  cases opened : openRule text with
  | mk parenthesized start =>
    rw [opened] at fields closes
    cases parenthesized with
    | false =>
      rw [closeRule_false_eq_ok_iff] at closes
      exact .bare (blanks_of_openRule_false opened) (fields closes) ends
    | true =>
      rw [closeRule_true_eq_ok_iff] at closes
      exact .parenthesized (blanks_of_openRule_true opened) (fields closes) ends

end Grammar
end TuringScript
