import TuringScript.Proofs.RuleLine.Folding

/-!
# Layout

Five fields can be laid out in a line in many ways: with blanks before and after each of them, in
parentheses, and with a comment behind them. As long as every field has the shape of a field,
whatever it means, and the line does not begin as a comment, all layouts are read alike.
-/
namespace TuringScript

namespace Grammar

open RuleLine Printing

/-! ### Shapes -/

/-- A row of atoms, which may be empty. -/
def IsRun (text : List Char) : Prop :=
  ∃ run, (∀ atom ∈ run, Solid atom) ∧ spelling run = text

inductive IsClass : List Char → Prop where
  | closed (channel : Channel) {content : List Char} (isRun : IsRun content) :
      IsClass (channel.opening :: (content ++ [channel.closing]))

inductive IsState : List Char → Prop where
  | bare {text : List Char} (isRun : IsRun text) (nonempty : text ≠ []) : IsState text
  | varying {front middle back : List Char} (before : IsRun front) (isClass : IsClass middle)
      (after : IsRun back) : IsState (front ++ (middle ++ back))

inductive IsSlot : List Char → Prop where
  | bare {text : List Char} (isRun : IsRun text) (nonempty : text ≠ []) : IsSlot text
  | bracketed {text : List Char} (isClass : IsClass text) : IsSlot text

/-- The shape that a text needs to stand in a field. -/
def IsField : Field → List Char → Prop
  | .startState | .destState => IsState
  | .startSymbol | .destSymbol | .move => IsSlot

theorem IsRun.of_ordinary {text : List Char} (ordinary : ∀ c ∈ text, Ordinary c) : IsRun text := by
  refine ⟨text.map .plain, ?_, spelling_map_plain text⟩
  intro atom member
  obtain ⟨c, inside, rfl⟩ := List.mem_map.mp member
  exact ordinary c inside

/-! #### Folding keeps shapes -/

section Folding

variable (dialect : Dialect) {text : List Char}

theorem flatMap_foldChar_ne_nil (nonempty : text ≠ []) : text.flatMap dialect.foldChar ≠ [] := by
  intro empty
  obtain ⟨c, text, rfl⟩ := List.exists_cons_of_ne_nil nonempty
  exact dialect.foldChar_ne_nil c (List.flatMap_eq_nil_iff.mp empty c (.head _))

theorem IsRun.fold (isRun : IsRun text) : IsRun (text.flatMap dialect.foldChar) := by
  obtain ⟨run, solid, rfl⟩ := isRun
  exact exists_run_fold dialect solid

theorem IsClass.fold (isClass : IsClass text) : IsClass (text.flatMap dialect.foldChar) := by
  obtain ⟨channel, isRun⟩ := isClass
  have opening : dialect.foldChar channel.opening = [channel.opening] :=
    dialect.foldChar_of_not_ordinary (by cases channel <;> decide)
  have closing : dialect.foldChar channel.closing = [channel.closing] :=
    dialect.foldChar_of_not_ordinary (by cases channel <;> decide)
  simp only [List.flatMap_cons, List.flatMap_append, List.flatMap_nil, opening, closing,
    List.singleton_append, List.append_nil]
  exact .closed channel (isRun.fold dialect)

theorem IsState.fold (isState : IsState text) : IsState (text.flatMap dialect.foldChar) := by
  cases isState with
  | bare isRun nonempty =>
    exact .bare (isRun.fold dialect) (flatMap_foldChar_ne_nil dialect nonempty)
  | varying before isClass after =>
    simp only [List.flatMap_append]
    exact .varying (before.fold dialect) (isClass.fold dialect) (after.fold dialect)

theorem IsSlot.fold (isSlot : IsSlot text) : IsSlot (text.flatMap dialect.foldChar) := by
  cases isSlot with
  | bare isRun nonempty =>
    exact .bare (isRun.fold dialect) (flatMap_foldChar_ne_nil dialect nonempty)
  | bracketed isClass => exact .bracketed (isClass.fold dialect)

theorem IsField.fold {field : Field} (isField : IsField field text) :
    IsField field (text.flatMap dialect.foldChar) := by
  cases field with
  | startState | destState => exact IsState.fold dialect isField
  | startSymbol | destSymbol | move => exact IsSlot.fold dialect isField

end Folding

/-! #### Shapes are read as they stand -/

/-- A text that is read as one item wherever no atom follows it, and that begins with no blank. -/
structure Readable {α : Type} (item : List Char → α → List Char → Prop) (text : List Char)
    (tree : α) : Prop where
  reads : ∀ rest, ¬ BeginsAtom true rest → item (text ++ rest) tree rest
  visible : ∀ rest, Blanks (text ++ rest) (text ++ rest)

variable {text : List Char}

theorem IsRun.exists_run (isRun : IsRun text) :
    ∃ run, (text ≠ [] → run ≠ []) ∧
      ∀ rest, ¬ BeginsAtom true rest → Run true (text ++ rest) run rest := by
  obtain ⟨run, solid, rfl⟩ := isRun
  refine ⟨run, ?_, ?_⟩
  · exact mt (spelling_eq_nil_iff run).mpr
  · intro rest stops
    exact run_of_solid solid stops

theorem IsRun.visible (isRun : IsRun text) (nonempty : text ≠ []) (rest : List Char) :
    Blanks (text ++ rest) (text ++ rest) := by
  obtain ⟨_ | ⟨atom, run⟩, solid, rfl⟩ := isRun
  · exact absurd rfl nonempty
  · cases atom with
    | plain c =>
      have ordinary : Ordinary c := solid _ (.head _)
      exact blanks_cons ((ordinary_iff c).mp ordinary).1 _
    | escaped c => exact blanks_cons rfl _

theorem IsClass.readable (isClass : IsClass text) :
    ∃ tree, (∀ rest, Class true (text ++ rest) tree rest) ∧
      ∀ rest, Blanks (text ++ rest) (text ++ rest) := by
  obtain ⟨channel, isRun⟩ := isClass
  obtain ⟨run, -, reads⟩ := isRun.exists_run
  refine ⟨⟨channel, run⟩, ?_, ?_⟩
  · intro rest
    have closes := reads _ (not_beginsAtom_closing true channel rest)
    simpa using Class.closed closes
  · intro rest
    exact blanks_cons (visible_opening channel) _

theorem IsClass.not_beginsAtom (isClass : IsClass text) (rest : List Char) :
    ¬ BeginsAtom true (text ++ rest) := by
  obtain ⟨channel, -⟩ := isClass
  exact not_beginsAtom_opening true channel _

theorem IsState.exists_tree (isState : IsState text) : ∃ tree, Readable (State true) text tree := by
  cases isState with
  | bare isRun nonempty =>
    obtain ⟨run, some, reads⟩ := isRun.exists_run
    exact ⟨.bare run, fun rest stops => .bare (reads rest stops) (some nonempty),
      isRun.visible nonempty⟩
  | @varying front middle back before isClass after =>
    obtain ⟨first, -, readsFront⟩ := before.exists_run
    obtain ⟨tree, readsMiddle, visible⟩ := isClass.readable
    obtain ⟨last, -, readsBack⟩ := after.exists_run
    refine ⟨.varying first tree last, ?_, ?_⟩
    · intro rest stops
      simp only [List.append_assoc]
      exact .varying (readsFront _ (isClass.not_beginsAtom _)) (readsMiddle _)
        (readsBack rest stops)
    -- The class is what the text begins with if there is nothing before it.
    · intro rest
      simp only [List.append_assoc]
      by_cases nothing : front = []
      · rw [nothing]
        exact visible _
      · exact before.visible nothing _

theorem IsSlot.exists_tree (isSlot : IsSlot text) : ∃ tree, Readable (Slot true) text tree := by
  cases isSlot with
  | bare isRun nonempty =>
    obtain ⟨run, some, reads⟩ := isRun.exists_run
    exact ⟨.bare run, fun rest stops => .bare (reads rest stops) (some nonempty),
      isRun.visible nonempty⟩
  | bracketed isClass =>
    obtain ⟨tree, reads, visible⟩ := isClass.readable
    exact ⟨.bracketed tree, fun rest _ => .bracketed (reads rest), visible⟩

end Grammar

/-! ### Layouts -/

inductive Blank where
  | space
  | tab
  deriving DecidableEq, Repr

namespace Blank

def char : Blank → Char
  | space => ' '
  | tab => '\t'

def text (blanks : List Blank) : List Char := blanks.map char

theorem isBlank_char (blank : Blank) : RuleLine.isBlank blank.char = true := by
  cases blank <;> rfl

end Blank

/-- The blanks before and after each field, the blanks before and after the parentheses if there are
any, and a comment with the blank before it. -/
structure Layout where
  before : Field → List Blank
  after : Field → List Blank
  parentheses : Option (List Blank × List Blank)
  comment : Option (Blank × List Char)

namespace Layout

/-- Just the fields, with the commas between them. -/
def bare : Layout := ⟨fun _ => [], fun _ => [], none, none⟩

section Text

variable (layout : Layout) (texts : Field → List Char)

def padded (field : Field) : List Char :=
  Blank.text (layout.before field) ++ (texts field ++ Blank.text (layout.after field))

def fields : List Char :=
  layout.padded texts .startState ++ ',' :: (layout.padded texts .startSymbol ++
    ',' :: (layout.padded texts .destState ++ ',' :: (layout.padded texts .destSymbol ++
      ',' :: layout.padded texts .move)))

def enclosed : List Char :=
  match layout.parentheses with
  | none => layout.fields texts
  | some (front, back) =>
    Blank.text front ++ '(' :: (layout.fields texts ++ ')' :: Blank.text back)

def remark (marker : Char) : List Char :=
  match layout.comment with
  | none => []
  | some (blank, text) => blank.char :: marker :: text

/-- The texts of the fields, laid out in a line. -/
def text (marker : Char) : List Char := layout.enclosed texts ++ layout.remark marker

theorem text_bare (marker : Char) :
    bare.text texts marker = texts .startState ++ ',' :: (texts .startSymbol ++
      ',' :: (texts .destState ++ ',' :: (texts .destSymbol ++ ',' :: texts .move))) := by
  simp [text, bare, enclosed, fields, padded, remark, Blank.text]

end Text

end Layout

namespace Grammar

open RuleLine Printing

/-! ### All layouts are read alike -/

theorem blanks_append {rest : List Char} (visible : Blanks rest rest) (blanks : List Blank) :
    Blanks (Blank.text blanks ++ rest) rest := by
  rw [blanks_iff, skipBlanks] at visible ⊢
  rw [List.dropWhile_append_of_pos, visible]
  intro c member
  obtain ⟨blank, -, rfl⟩ := List.mem_map.mp member
  exact blank.isBlank_char

theorem not_beginsAtom_append {rest : List Char} (stops : ¬ BeginsAtom true rest)
    (blanks : List Blank) : ¬ BeginsAtom true (Blank.text blanks ++ rest) := by
  cases blanks with
  | nil => exact stops
  | cons blank blanks =>
    exact not_beginsAtom_of_special (by simp [blank.isBlank_char]) _

theorem Readable.padded {α : Type} {item : List Char → α → List Char → Prop} {text : List Char}
    {tree : α} (readable : Readable item text tree) (before after : List Blank) {rest : List Char}
    (stops : ¬ BeginsAtom true (Blank.text after ++ rest)) (visible : Blanks rest rest) :
    Padded item (Blank.text before ++ (text ++ (Blank.text after ++ rest))) tree rest :=
  ⟨_, _, blanks_append (readable.visible _) before, readable.reads _ stops,
    blanks_append visible after⟩

/-- A field with a comma behind it. -/
theorem Readable.padded_comma {α : Type} {item : List Char → α → List Char → Prop}
    {texts : Field → List Char} {field : Field} {tree : α}
    (readable : Readable item (texts field) tree) (layout : Layout) (rest : List Char) :
    Padded item (layout.padded texts field ++ ',' :: rest) tree (',' :: rest) := by
  have stops : ¬ BeginsAtom true (',' :: rest) := not_beginsAtom_of_special rfl rest
  simp only [Layout.padded, List.append_assoc]
  exact readable.padded _ _ (not_beginsAtom_append stops _) (blanks_cons rfl rest)

/-- The fields, and what may stand behind the last one: blanks, and then a character that no field
goes on with. -/
theorem exists_fields {texts : Field → List Char}
    (shaped : ∀ field, IsField field (texts field)) :
    ∃ tree, ∀ (layout : Layout) (behind : List Blank) (rest : List Char),
      ¬ BeginsAtom true (Blank.text behind ++ rest) → Blanks rest rest →
        Fields true (layout.fields texts ++ (Blank.text behind ++ rest)) tree rest := by
  obtain ⟨startState, readsA⟩ := IsState.exists_tree (shaped .startState)
  obtain ⟨startSymbol, readsB⟩ := IsSlot.exists_tree (shaped .startSymbol)
  obtain ⟨destState, readsC⟩ := IsState.exists_tree (shaped .destState)
  obtain ⟨destSymbol, readsD⟩ := IsSlot.exists_tree (shaped .destSymbol)
  obtain ⟨move, readsE⟩ := IsSlot.exists_tree (shaped .move)
  refine ⟨⟨startState, startSymbol, destState, destSymbol, move⟩, ?_⟩
  intro layout behind rest stops visible
  have stopsE := not_beginsAtom_append stops (layout.after .move)
  have last := readsE.padded (layout.before .move) (layout.after .move ++ behind)
    (by simpa [Blank.text] using stopsE) visible
  simp only [Layout.fields, List.append_assoc, List.cons_append]
  refine .separated (readsA.padded_comma layout _) (readsB.padded_comma layout _)
    (readsC.padded_comma layout _) (readsD.padded_comma layout _) ?_
  simpa [Layout.padded, Blank.text] using last

/-- Blanks before the fields may be skipped beforehand. -/
theorem fields_skipBlanks {text rest : List Char} {tree : LineTree}
    (fields : Fields true text tree rest) : Fields true (skipBlanks text) tree rest := by
  obtain ⟨⟨start, stop, blanks, reads, after⟩, startSymbol, destState, destSymbol, move⟩ := fields
  rw [(blanks_iff text start).mp blanks]
  -- What is left once the blanks are skipped does not begin with one, and so stays.
  obtain ⟨-, -, -, visible⟩ := blanks
  exact .separated ⟨start, stop, ⟨[], rfl, nofun, visible⟩, reads, after⟩ startSymbol destState
    destSymbol move

/-- Behind the rule there is nothing, or a comment with a blank before it. -/
theorem exists_remark {marker : Char} (visible : isBlank marker = false) (layout : Layout) :
    ∃ behind rest, layout.remark marker = Blank.text behind ++ rest ∧
      ¬ BeginsAtom true (Blank.text behind ++ rest) ∧ Blanks rest rest ∧
      (rest = [] ∨ ∃ comment, rest = marker :: comment) := by
  unfold Layout.remark
  cases layout.comment with
  | none => exact ⟨[], [], rfl, not_beginsAtom_nil true, (blanks_iff [] []).mpr rfl, .inl rfl⟩
  | some comment =>
    obtain ⟨blank, text⟩ := comment
    refine ⟨[blank], marker :: text, rfl, ?_, blanks_cons visible text, .inr ⟨text, rfl⟩⟩
    exact not_beginsAtom_of_special (by simp [blank.isBlank_char]) _

/-- One tree is read off all layouts of the fields. -/
theorem exists_line_layout {texts : Field → List Char} {marker : Char}
    (shaped : ∀ field, IsField field (texts field)) (visible : isBlank marker = false) :
    ∃ tree, ∀ layout : Layout, Line true marker (layout.text texts marker) tree := by
  obtain ⟨tree, fields⟩ := exists_fields shaped
  refine ⟨tree, fun layout => ?_⟩
  obtain ⟨behind, rest, remark, stops, apart, ended⟩ := exists_remark visible layout
  rw [Layout.text, remark, Layout.enclosed]
  cases layout.parentheses with
  -- The blank before a comment is the last of the blanks behind the move or the parenthesis.
  | none =>
    have reads := fields layout behind rest stops apart
    exact .bare (blanks_skipBlanks _) (fields_skipBlanks reads) ⟨rest, apart, ended⟩
  | some parentheses =>
    obtain ⟨front, back⟩ := parentheses
    have opens := blanks_append (blanks_cons (c := '(') rfl
      (layout.fields texts ++ ')' :: (Blank.text back ++ (Blank.text behind ++ rest)))) front
    have reads := fields layout [] (')' :: (Blank.text back ++ (Blank.text behind ++ rest)))
      (not_beginsAtom_of_special rfl _) (blanks_cons rfl _)
    have ends := blanks_append apart (back ++ behind)
    simp only [List.append_assoc, List.cons_append]
    refine .parenthesized opens reads ⟨rest, ?_, ended⟩
    simpa [Blank.text] using ends

end Grammar

/-! ### Folding a layout -/

namespace Dialect

open Grammar

variable (dialect : Dialect) (texts : Field → List Char) (layout : Layout)

/-- The line that the fields are laid out in. -/
def line : String := .ofList (layout.text texts dialect.commentMarker)

/-- Of a layout, only what is said in the comment is folded. -/
def foldLayout : Layout := { layout with
  comment := layout.comment.map (Prod.map id (List.flatMap dialect.foldChar)) }

def foldTexts (field : Field) : List Char := (texts field).flatMap dialect.foldChar

theorem foldChar_blank (blank : Blank) : dialect.foldChar blank.char = [blank.char] :=
  dialect.foldChar_of_not_ordinary (by cases blank <;> decide)

theorem flatMap_foldChar_blanks (blanks : List Blank) :
    (Blank.text blanks).flatMap dialect.foldChar = Blank.text blanks := by
  rw [Blank.text, List.flatMap_map]
  simp only [foldChar_blank, List.map_eq_flatMap]

theorem flatMap_foldChar_fields : (layout.fields texts).flatMap dialect.foldChar =
    (dialect.foldLayout layout).fields (dialect.foldTexts texts) := by
  have padded (field : Field) : (layout.padded texts field).flatMap dialect.foldChar =
      (dialect.foldLayout layout).padded (dialect.foldTexts texts) field := by
    simp only [Layout.padded, List.flatMap_append, flatMap_foldChar_blanks]
    rfl
  simp (disch := decide) only [Layout.fields, List.flatMap_append, List.flatMap_cons, padded,
    foldChar_of_not_ordinary, List.singleton_append]

theorem flatMap_foldChar_enclosed : (layout.enclosed texts).flatMap dialect.foldChar =
    (dialect.foldLayout layout).enclosed (dialect.foldTexts texts) := by
  have around : (dialect.foldLayout layout).parentheses = layout.parentheses := rfl
  rw [Layout.enclosed, Layout.enclosed, around]
  cases layout.parentheses with
  | none => exact flatMap_foldChar_fields dialect texts layout
  | some parentheses =>
    simp (disch := decide) only [List.flatMap_append, List.flatMap_cons, flatMap_foldChar_blanks,
      flatMap_foldChar_fields, foldChar_of_not_ordinary, List.singleton_append]

theorem flatMap_foldChar_remark (keeps : dialect.KeepsMarker) :
    (layout.remark dialect.commentMarker).flatMap dialect.foldChar =
      (dialect.foldLayout layout).remark dialect.commentMarker := by
  have kept := (keepsMarker_iff dialect).mp keeps
  rw [Layout.remark, Layout.remark, foldLayout]
  cases layout.comment with
  | none => rfl
  | some comment =>
    simp only [Option.map_some, Prod.map, List.flatMap_cons, foldChar_blank, kept,
      List.singleton_append]
    rfl

/-- Folding a layout of the fields gives a layout of the folded fields. -/
theorem fold_layout (keeps : dialect.KeepsMarker) :
    dialect.fold (dialect.line texts layout) =
      (dialect.foldLayout layout).text (dialect.foldTexts texts) dialect.commentMarker := by
  rw [line, fold_eq_flatMap, String.toList_ofList, Layout.text, List.flatMap_append,
    flatMap_foldChar_enclosed, flatMap_foldChar_remark dialect layout keeps, Layout.text]

/-! ### Reading a layout -/

/-- A layout that does not begin as a comment holds a rule, for it has commas in it. -/
theorem skips_layout (keeps : dialect.KeepsMarker)
    (begins : (dialect.fold (dialect.line texts layout)).head? ≠ some dialect.commentMarker) :
    dialect.skips (dialect.fold (dialect.line texts layout)) = false := by
  have comma : ',' ∈ dialect.fold (dialect.line texts layout) := by
    rw [fold_layout dialect texts layout keeps, Layout.text, Layout.enclosed]
    cases (dialect.foldLayout layout).parentheses <;> simp [Layout.fields]
  have visible : (dialect.fold (dialect.line texts layout)).all Text.isWhiteSpace = false := by
    rw [List.all_eq_false]
    exact ⟨',', comma, by decide⟩
  simp [skips, begins, visible]

/-- All layouts of the fields are cut to one template, or have one fault. -/
theorem exists_template_layout (number : Nat) (shaped : ∀ field, IsField field (texts field))
    (visible : dialect.commentMarker ≠ ' ' ∧ dialect.commentMarker ≠ '\t')
    (keeps : dialect.KeepsMarker) :
    ∃ made, ∀ layout : Layout, dialect.template number (dialect.line texts layout) = made := by
  have isBlank : RuleLine.isBlank dialect.commentMarker = false := by
    simpa [RuleLine.isBlank] using visible
  have folded : ∀ field, IsField field (dialect.foldTexts texts field) := by
    intro field
    exact (shaped field).fold dialect
  obtain ⟨tree, lines⟩ := exists_line_layout folded isBlank
  refine ⟨tree.texts.template number, ?_⟩
  intro layout
  rw [template, fold_layout dialect texts layout keeps,
    readFields_of_line (lines (dialect.foldLayout layout))]
  rfl

/-- Fields that have their shapes are read alike in any two layouts that do not begin as a comment:
with the same outcome, whether it be rules, a fault, or rules before a fault. -/
theorem readLine_layout (number : Nat) (shaped : ∀ field, IsField field (texts field))
    (visible : dialect.commentMarker ≠ ' ' ∧ dialect.commentMarker ≠ '\t')
    (keeps : dialect.KeepsMarker) (layout other : Layout)
    (begins : (dialect.fold (dialect.line texts layout)).head? ≠ some dialect.commentMarker)
    (otherBegins : (dialect.fold (dialect.line texts other)).head? ≠ some dialect.commentMarker) :
    dialect.readLine number (dialect.line texts layout) =
      dialect.readLine number (dialect.line texts other) := by
  obtain ⟨made, cut⟩ := exists_template_layout dialect texts number shaped visible keeps
  have holds := dialect.skips_layout texts layout keeps begins
  have otherHolds := dialect.skips_layout texts other keeps otherBegins
  rw [readLine_eq, readLine_eq, holds, otherHolds, cut layout, cut other]

/-- Fields of a line that flips a bit, as they stand in the two lines below. -/
def flippingFields : Field → List Char
  | .startState => ['q']
  | .startSymbol => ['[', '0', '1', ']']
  | .destState => ['q']
  | .destSymbol => ['[', '1', '0', ']']
  | .move => ['>']

def spread : Layout where
  before _ := [.space]
  after _ := [.tab]
  parentheses := some ([.tab], [])
  comment := some (.space, ['(', '\\'])

theorem readLine_layout_spread :
    (∀ field, IsField field (flippingFields field)) ∧ standard.KeepsMarker ∧
    standard.readLine 4 "q,[01],q,[10],>" =
      standard.readLine 4 "\t( q\t, [01]\t, q\t, [10]\t, >\t) #(\\" := by
  have state : IsRun ['q'] := .of_ordinary (by simp [Ordinary])
  have read : IsRun ['0', '1'] := .of_ordinary (by simp [Ordinary])
  have written : IsRun ['1', '0'] := .of_ordinary (by simp [Ordinary])
  have move : IsRun ['>'] := .of_ordinary (by simp [Ordinary])
  have shaped : ∀ field, IsField field (flippingFields field) := by
    intro field
    cases field with
    | startState => exact .bare state (List.cons_ne_nil _ _)
    | startSymbol => exact .bracketed (.closed .square read)
    | destState => exact .bare state (List.cons_ne_nil _ _)
    | destSymbol => exact .bracketed (.closed .square written)
    | move => exact .bare move (List.cons_ne_nil _ _)
  have keeps : standard.KeepsMarker := fun _ => by decide
  have bare : "q,[01],q,[10],>" = standard.line flippingFields .bare := by
    rw [line, Layout.text_bare]
    decide
  have wide : "\t( q\t, [01]\t, q\t, [10]\t, >\t) #(\\" =
      standard.line flippingFields spread := by
    decide +kernel
  rw [bare, wide]
  exact ⟨shaped, keeps, readLine_layout standard flippingFields 4 shaped (by decide) keeps
    Layout.bare spread (by decide +kernel) (by decide +kernel)⟩

end Dialect
end TuringScript
