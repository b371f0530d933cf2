import TuringScript.Proofs.RuleLine.Atoms

/-!
# Reading a class by positions

The class that a span of a text spells, read with an index into the whole text. Every access to the
text is checked, and there is no class if one of them is outside. No access is, as long as the span
does not end behind the text; the class is then the one that is read off the text of the span.
-/
namespace TuringScript.Indexed

open Grammar

/-! ### Accesses -/

/-- The character before a position. -/
def before? (text : List Char) : Nat → Option Char
  | 0 => none
  | position + 1 => text[position]?

/-- The part of the text that a span covers. -/
def slice? (text : List Char) (span : Span) : Option (List Char) :=
  if span.Within text then some (span.slice text) else none

/-! ### Bare tokens -/

/-- The items of a bare token from a position on. -/
def tokenItems? (text : List Char) (token : Span) (position : Nat) :
    Option (List Alternative) :=
  if position < token.stop then do
    let c ← text[position]?
    if c = '\\' ∧ position + 1 < token.stop then
      let escaped ← text[position + 1]?
      let later ← tokenItems? text token (position + 2)
      return ⟨escaped, true⟩ :: later
    else
      let later ← tokenItems? text token (position + 1)
      return ⟨c, false⟩ :: later
  else some []
termination_by token.stop - position

/-! ### Bracketed content -/

/-- A dot begins an operator if another dot follows and a character of the content is on either
side of the two. -/
def isOperator? (text : List Char) (content : Span) (position : Nat) (c : Char) : Option Bool :=
  if c = '.' ∧ position ≠ content.start ∧ position + 2 < content.stop then do
    let dots ← slice? text ⟨position, position + 2⟩
    return dots.all (· == '.')
  else some false

/-- The upper bound of a range, and how far the range goes. -/
def upperBound? (text : List Char) (content : Span) (position : Nat) : Option (Char × Nat) := do
  let c ← text[position + 2]?
  if c = '\\' ∧ position + 3 < content.stop then
    let escaped ← text[position + 3]?
    return (escaped, position + 4)
  else return (c, position + 3)

/-- One turn of the loop over a content: the items that it adds, and the position of the next. -/
def turn? (text : List Char) (content : Span) (position : Nat) :
    Option (List Alternative × Nat) := do
  let c ← text[position]?
  let operator ← isOperator? text content position c
  if operator then
    let (high, next) ← upperBound? text content position
    let low ← before? text position
    return (CharClass.rangeItems low high, next)
  else if c = '\\' ∧ position + 1 < content.stop then
    let escaped ← text[position + 1]?
    return ([⟨escaped, true⟩], position + 2)
  else return ([⟨c, false⟩], position + 1)

theorem lt_of_upperBound? {text : List Char} {content : Span} {position next : Nat} {high : Char}
    (found : upperBound? text content position = some (high, next)) : position < next := by
  simp only [upperBound?, Option.bind_eq_bind, Option.bind_eq_some_iff] at found
  obtain ⟨c, -, found⟩ := found
  split at found
  · obtain ⟨escaped, -, found⟩ := Option.bind_eq_some_iff.mp found
    cases found
    omega
  · cases found
    omega

theorem lt_of_turn? {text : List Char} {content : Span} {position next : Nat}
    {items : List Alternative} (taken : turn? text content position = some (items, next)) :
    position < next := by
  simp only [turn?, Option.bind_eq_bind, Option.bind_eq_some_iff] at taken
  obtain ⟨c, -, operator, -, taken⟩ := taken
  split at taken
  · simp only [Option.bind_eq_some_iff] at taken
    obtain ⟨⟨high, behind⟩, bound, low, -, taken⟩ := taken
    cases taken
    exact lt_of_upperBound? bound
  · split at taken
    · obtain ⟨escaped, -, taken⟩ := Option.bind_eq_some_iff.mp taken
      cases taken
      omega
    · cases taken
      exact Nat.lt_succ_self position

/-- The items of a content from a position on: turn after turn, up to its end. -/
def contentItems? (text : List Char) (content : Span) (position : Nat) :
    Option (List Alternative) :=
  if position < content.stop then
    match _ : turn? text content position with
    | none => none
    | some (items, next) => (contentItems? text content next).map (items ++ ·)
  else some []
termination_by content.stop - position
decreasing_by
  have advanced := lt_of_turn? ‹_›
  omega

/-- The positions at which the loop over a content comes round, from the first one to the end. -/
inductive Visits (text : List Char) (content : Span) : Nat → Prop where
  | first : Visits text content content.start
  | next {position next : Nat} {items : List Alternative} (visited : Visits text content position)
      (inside : position < content.stop) (taken : turn? text content position = some (items, next)) :
      Visits text content next

/-! ### One turn -/

/-- The character before a position of the content, if it is one of the content. -/
def previous? (text : List Char) (content : Span) (position : Nat) : Option Char :=
  if position = content.start then none else before? text position

/-- The content from a position on. -/
def rest (text : List Char) (content : Span) (position : Nat) : List Char :=
  (text.take content.stop).drop position

variable {text : List Char} {content : Span} {position : Nat}

theorem getElem?_of_rest (places : Nat) {c : Char}
    (found : (rest text content position)[places]? = some c) :
    text[position + places]? = some c ∧ position + places < content.stop := by
  rw [rest, List.getElem?_drop, List.getElem?_take] at found
  split at found
  next inside => exact ⟨found, inside⟩
  next => cases found

theorem rest_add (places : Nat) :
    rest text content (position + places) = (rest text content position).drop places := by
  rw [rest, rest, List.drop_drop]

theorem length_rest (stops : content.stop ≤ text.length) :
    (rest text content position).length = content.stop - position := by
  rw [rest, List.length_drop, List.length_take, Nat.min_eq_left stops]

theorem stop_le_of_rest {known : List Char} (stops : content.stop ≤ text.length)
    (ahead : rest text content position = known) : content.stop ≤ position + known.length := by
  rw [← ahead, length_rest stops]
  omega

theorem rest_eq_nil (stops : content.stop ≤ text.length) (ended : ¬ position < content.stop) :
    rest text content position = [] := by
  apply List.eq_nil_of_length_eq_zero
  rw [length_rest stops]
  omega

theorem exists_rest (stops : content.stop ≤ text.length) (inside : position < content.stop) :
    ∃ c later, rest text content position = c :: later := by
  apply List.exists_cons_of_ne_nil
  rw [← List.length_pos_iff, length_rest stops]
  exact Nat.sub_pos_of_lt inside

theorem slice?_eq_take (places : Nat) (inside : position + places ≤ content.stop)
    (stops : content.stop ≤ text.length) :
    slice? text ⟨position, position + places⟩ =
      some ((rest text content position).take places) := by
  have within : Span.Within text ⟨position, position + places⟩ :=
    ⟨Nat.le_add_right _ _, Nat.le_trans inside stops⟩
  rw [slice?, if_pos within, Span.slice, rest, List.drop_take, List.drop_take, List.take_take,
    Nat.add_sub_cancel_left, Nat.min_eq_left (by omega)]

theorem previous?_add_one (begun : content.start ≤ position) (places : Nat) :
    previous? text content (position + places + 1) = text[position + places]? := by
  rw [previous?, if_neg (by omega), before?]

theorem before?_of_previous? {low : Char} (before : previous? text content position = some low) :
    position ≠ content.start ∧ before? text position = some low := by
  rw [previous?] at before
  split at before
  next => cases before
  next apart => exact ⟨apart, before⟩

/-- An atom on its own is no escape with something of the content after it. -/
theorem not_escape_of_single {c : Char} {later : List Char} (stops : content.stop ≤ text.length)
    (ahead : rest text content position = c :: later) (single : c = '\\' → later = []) :
    ¬ (c = '\\' ∧ position + 1 < content.stop) := by
  rintro ⟨escape, inside⟩
  have ends := stop_le_of_rest stops ahead
  rw [single escape] at ends
  exact Nat.not_lt.mpr ends inside

/-- Two dots behind a character of the content, and one more character. -/
def Ranges (text : List Char) (content : Span) (position : Nat) : Prop :=
  ∃ low high later, previous? text content position = some low ∧
    rest text content position = '.' :: '.' :: high :: later

theorem isOperator?_of_ranges (stops : content.stop ≤ text.length)
    (ranges : Ranges text content position) :
    isOperator? text content position '.' = some true := by
  obtain ⟨low, high, later, before, ahead⟩ := ranges
  obtain ⟨-, inside⟩ := getElem?_of_rest 2 (congrArg (·[2]?) ahead)
  obtain ⟨apart, -⟩ := before?_of_previous? before
  rw [isOperator?, if_pos ⟨rfl, apart, inside⟩, slice?_eq_take 2 (Nat.le_of_lt inside) stops, ahead]
  rfl

theorem exists_previous? (stops : content.stop ≤ text.length) (begun : content.start < position)
    (inside : position ≤ content.stop) : ∃ low, previous? text content position = some low := by
  obtain ⟨places, rfl⟩ := Nat.exists_eq_add_of_lt begun
  have within : content.start + places < text.length := by omega
  exact ⟨text[content.start + places], by
    rw [previous?_add_one (Nat.le_refl _), List.getElem?_eq_getElem within]⟩

theorem isOperator?_of_not_ranges (stops : content.stop ≤ text.length)
    (begun : content.start ≤ position) (other : ¬ Ranges text content position) (c : Char) :
    isOperator? text content position c = some false := by
  rw [isOperator?]
  split
  next room =>
    obtain ⟨-, apart, inside⟩ := room
    rw [slice?_eq_take 2 (Nat.le_of_lt inside) stops]
    have length : (rest text content position).length = content.stop - position :=
      length_rest stops
    obtain ⟨low, before⟩ :=
      exists_previous? stops (Nat.lt_of_le_of_ne begun (Ne.symm apart)) (by omega)
    -- There is room for an operator, so one of the next two characters is no dot.
    match ahead : rest text content position with
    | [] | [_] | [_, _] => rw [ahead] at length; simp only [List.length] at length; omega
    | first :: second :: high :: later =>
      have dots : ¬ (first = '.' ∧ second = '.') := by
        rintro ⟨rfl, rfl⟩
        exact other ⟨low, high, later, before, ahead⟩
      simpa using dots
  next => rfl

theorem previous?_of_rest (begun : content.start ≤ position) (places : Nat) {c : Char}
    (found : (rest text content position)[places]? = some c) :
    previous? text content (position + places + 1) = some c := by
  rw [previous?_add_one begun, (getElem?_of_rest places found).1]

/-- What a turn does at a position of the content. It takes whole atoms. -/
structure Turn (text : List Char) (content : Span) (position : Nat) (items : List Alternative)
    (run : List Atom) (later : List Char) : Prop where
  ahead : rest text content position = spelling run ++ later
  whole : atomsOf (spelling run ++ later) = run ++ atomsOf later
  taken : turn? text content position = some (items, position + (spelling run).length)
  items_eq : CharClass.contentItems (previous? text content position) (spelling run ++ later) =
    items ++ CharClass.contentItems (previous? text content (position + (spelling run).length)) later

variable {low high c : Char} {later : List Char}

theorem turn_range_escaped (stops : content.stop ≤ text.length) (begun : content.start ≤ position)
    (before : previous? text content position = some low)
    (ahead : rest text content position = '.' :: '.' :: '\\' :: high :: later) :
    Turn text content position (CharClass.rangeItems low high)
      [.plain '.', .plain '.', .escaped high] later where
  ahead := ahead
  whole := rfl
  taken := by
    have operator := isOperator?_of_ranges stops ⟨low, _, _, before, ahead⟩
    obtain ⟨dot, -⟩ := getElem?_of_rest 0 (congrArg (·[0]?) ahead)
    obtain ⟨escape, -⟩ := getElem?_of_rest 2 (congrArg (·[2]?) ahead)
    obtain ⟨bound, inside⟩ := getElem?_of_rest 3 (congrArg (·[3]?) ahead)
    obtain ⟨-, behind⟩ := before?_of_previous? before
    rw [Nat.add_zero] at dot
    simp [turn?, upperBound?, dot, operator, escape, bound, inside, behind, spelling, Atom.spelling]
  items_eq := by
    have next := previous?_of_rest begun 3 (congrArg (·[3]?) ahead)
    change CharClass.contentItems _ ('.' :: '.' :: '\\' :: high :: later) =
      _ ++ CharClass.contentItems (previous? text content (position + 3 + 1)) later
    rw [before, next, CharClass.contentItems]

theorem turn_range (stops : content.stop ≤ text.length) (begun : content.start ≤ position)
    (before : previous? text content position = some low)
    (ahead : rest text content position = '.' :: '.' :: high :: later)
    (single : high = '\\' → later = []) :
    Turn text content position (CharClass.rangeItems low high)
      [.plain '.', .plain '.', .plain high] later where
  ahead := ahead
  whole := by
    change Atom.plain '.' :: Atom.plain '.' :: atomsOf (high :: later) = _
    rw [atomsOf_plain single]
    rfl
  taken := by
    have operator := isOperator?_of_ranges stops ⟨low, _, _, before, ahead⟩
    obtain ⟨dot, -⟩ := getElem?_of_rest 0 (congrArg (·[0]?) ahead)
    obtain ⟨bound, -⟩ := getElem?_of_rest 2 (congrArg (·[2]?) ahead)
    obtain ⟨-, behind⟩ := before?_of_previous? before
    -- An upper bound that is an escape ends the content.
    have atBound : rest text content (position + 2) = high :: later := by rw [rest_add, ahead]; rfl
    have last : ¬ (high = '\\' ∧ position + 3 < content.stop) :=
      not_escape_of_single stops atBound single
    rw [Nat.add_zero] at dot
    simp [turn?, upperBound?, dot, operator, bound, last, behind, spelling, Atom.spelling]
  items_eq := by
    have next := previous?_of_rest begun 2 (congrArg (·[2]?) ahead)
    change CharClass.contentItems _ ('.' :: '.' :: high :: later) =
      _ ++ CharClass.contentItems (previous? text content (position + 2 + 1)) later
    rw [before, next, CharClass.contentItems]
    rintro other more rfl rfl
    cases single rfl

theorem turn_escaped (begun : content.start ≤ position)
    (ahead : rest text content position = '\\' :: c :: later) :
    Turn text content position [⟨c, true⟩] [.escaped c] later where
  ahead := ahead
  whole := rfl
  taken := by
    obtain ⟨escape, -⟩ := getElem?_of_rest 0 (congrArg (·[0]?) ahead)
    obtain ⟨escaped, inside⟩ := getElem?_of_rest 1 (congrArg (·[1]?) ahead)
    rw [Nat.add_zero] at escape
    simp [turn?, isOperator?, escape, escaped, inside, spelling, Atom.spelling]
  items_eq := by
    have next := previous?_of_rest begun 1 (congrArg (·[1]?) ahead)
    change CharClass.contentItems _ ('\\' :: c :: later) =
      _ ++ CharClass.contentItems (previous? text content (position + 1 + 1)) later
    rw [next]
    cases previous? text content position <;> rfl

theorem turn_plain (stops : content.stop ≤ text.length) (begun : content.start ≤ position)
    (other : ¬ Ranges text content position)
    (ahead : rest text content position = c :: later) (single : c = '\\' → later = []) :
    Turn text content position [⟨c, false⟩] [.plain c] later where
  ahead := ahead
  whole := atomsOf_plain single
  taken := by
    have operator := isOperator?_of_not_ranges stops begun other
    obtain ⟨first, -⟩ := getElem?_of_rest 0 (congrArg (·[0]?) ahead)
    have last := not_escape_of_single stops ahead single
    rw [Nat.add_zero] at first
    simp [turn?, first, operator, last, spelling, Atom.spelling]
  items_eq := by
    have next := previous?_of_rest begun 0 (congrArg (·[0]?) ahead)
    change CharClass.contentItems _ (c :: later) =
      _ ++ CharClass.contentItems (previous? text content (position + 0 + 1)) later
    rw [next, CharClass.contentItems]
    · rfl
    · rintro d more rfl rfl
      cases single rfl
    · rintro low high more before rfl rfl
      exact other ⟨low, _, _, before, ahead⟩
    · rintro low high more before rfl rfl
      exact other ⟨low, _, _, before, ahead⟩

/-- Before the end of the content there is a turn. -/
theorem exists_turn (stops : content.stop ≤ text.length) (begun : content.start ≤ position)
    (inside : position < content.stop) :
    ∃ items run later, Turn text content position items run later := by
  by_cases ranges : Ranges text content position
  · obtain ⟨low, high, later, before, ahead⟩ := ranges
    rcases single_or_escape high later with single | ⟨rfl, d, later, rfl⟩
    · exact ⟨_, _, _, turn_range stops begun before ahead single⟩
    · exact ⟨_, _, _, turn_range_escaped stops begun before ahead⟩
  · obtain ⟨c, later, ahead⟩ := exists_rest stops inside
    rcases single_or_escape c later with single | ⟨rfl, d, later, rfl⟩
    · exact ⟨_, _, _, turn_plain stops begun ranges ahead single⟩
    · exact ⟨_, _, _, turn_escaped begun ahead⟩

theorem Turn.next_eq {items others : List Alternative} {run : List Atom} {next : Nat}
    (turn : Turn text content position items run later)
    (taken : turn? text content position = some (others, next)) :
    others = items ∧ next = position + (spelling run).length := by
  rw [turn.taken] at taken
  cases taken
  exact ⟨rfl, rfl⟩

theorem Turn.rest_next {items : List Alternative} {run : List Atom}
    (turn : Turn text content position items run later) :
    rest text content (position + (spelling run).length) = later := by
  rw [rest_add, turn.ahead, List.drop_left]

/-! ### The positions of the loop -/

theorem Turn.spells {items : List Alternative} {run : List Atom}
    (stops : content.stop ≤ text.length) (inside : position < content.stop)
    (turn : Turn text content position items run later) :
    Spells (text.take content.stop) position run (position + (spelling run).length) where
  within := by
    have length : (rest text content position).length = content.stop - position :=
      length_rest stops
    rw [turn.ahead, List.length_append] at length
    rw [List.length_take_of_le stops]
    omega
  reach := rfl
  split := by
    change atomsOf (rest text content position) = run ++ atomsOf (rest text content _)
    rw [turn.ahead, turn.whole, turn.rest_next]

theorem Visits.le (visited : Visits text content position) : content.start ≤ position := by
  induction visited with
  | first => exact Nat.le_refl _
  | next visited inside taken ih => exact Nat.le_trans ih (Nat.le_of_lt (lt_of_turn? taken))

/-- What is decoded from a position of the loop on is the end of what the content is decoded to. -/
theorem Visits.exists_items (stops : content.stop ≤ text.length)
    (visited : Visits text content position) :
    ∃ items, CharClass.contentItems none (content.slice text) =
      items ++ CharClass.contentItems (previous? text content position)
        (rest text content position) := by
  induction visited with
  | first =>
    refine ⟨[], ?_⟩
    rw [previous?, if_pos rfl]
    rfl
  | next visited inside taken ih =>
    obtain ⟨before, decoded⟩ := ih
    obtain ⟨items, run, later, turn⟩ := exists_turn stops visited.le inside
    obtain ⟨-, rfl⟩ := turn.next_eq taken
    -- The decoder puts the items of the turn first, and goes on where the next turn begins.
    refine ⟨before ++ items, ?_⟩
    rw [decoded, turn.ahead, turn.items_eq, turn.rest_next, List.append_assoc]

/-- Up to each position of the loop the content is a sequence of whole atoms. -/
theorem Visits.exists_spells (stops : content.stop ≤ text.length)
    (ordered : content.start ≤ content.stop) (visited : Visits text content position) :
    ∃ run, Spells (text.take content.stop) content.start run position := by
  induction visited with
  | first =>
    refine ⟨[], .refl ?_⟩
    rwa [List.length_take_of_le stops]
  | next visited inside taken ih =>
    obtain ⟨before, reached⟩ := ih
    obtain ⟨items, run, later, turn⟩ := exists_turn stops visited.le inside
    obtain ⟨-, rfl⟩ := turn.next_eq taken
    exact ⟨_, reached.trans (turn.spells stops inside)⟩

/-- An operator is two dots, and the upper bound is behind them. -/
theorem ranges_of_isOperator? {c : Char} (stops : content.stop ≤ text.length)
    (begun : content.start ≤ position)
    (operator : isOperator? text content position c = some true) :
    Ranges text content position := by
  apply Classical.byContradiction
  intro other
  rw [isOperator?_of_not_ranges stops begun other] at operator
  cases operator

end TuringScript.Indexed
