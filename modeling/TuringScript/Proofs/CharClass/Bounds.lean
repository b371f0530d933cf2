import Mathlib.Data.List.Nodup
import TuringScript.Proofs.CharClass.Complement
import TuringScript.Proofs.CharClass.Positions

/-!
# Bounds of a class

A class that is read with an index into the text of a whole line never leaves the line, whichever
span it is read from, and it is the class that the text of the span spells.
-/
namespace TuringScript.Indexed

open Grammar

variable {text : List Char} {content : Span} {position : Nat}

/-! ### Items -/

theorem tokenItems?_eq_some (stops : content.stop ≤ text.length) :
    tokenItems? text content position =
      some (CharClass.tokenItems (rest text content position)) := by
  fun_induction tokenItems? text content position with
  | case1 position inside ihEscaped ihPlain =>
    obtain ⟨c, later, ahead⟩ := exists_rest stops inside
    obtain ⟨found, -⟩ := getElem?_of_rest 0 (congrArg (·[0]?) ahead)
    rw [Nat.add_zero] at found
    -- An escape that ends the token has nothing to take along.
    rcases single_or_escape c later with single | ⟨rfl, d, later, rfl⟩
    · have last := not_escape_of_single stops ahead single
      have next : rest text content (position + 1) = later := by rw [rest_add, ahead]; rfl
      simp only [found, Option.bind_eq_bind, Option.bind_some, if_neg last, ihPlain, next, ahead]
      rw [tokenItems_eq_map (c :: later), atomsOf_plain single, List.map_cons, ← tokenItems_eq_map]
      rfl
    · obtain ⟨escaped, room⟩ := getElem?_of_rest 1 (congrArg (·[1]?) ahead)
      have next : rest text content (position + 2) = later := by rw [rest_add, ahead]; rfl
      have later_eq := ihEscaped '\\' ⟨rfl, room⟩
      simp only [found, escaped, Option.bind_eq_bind, Option.bind_some, room, and_self, if_true,
        later_eq, next, ahead]
      rfl
  | case2 position ended =>
    rw [rest_eq_nil stops ended, CharClass.tokenItems]

theorem contentItems?_eq_some (stops : content.stop ≤ text.length)
    (begun : content.start ≤ position) :
    contentItems? text content position =
      some (CharClass.contentItems (previous? text content position)
        (rest text content position)) := by
  fun_induction contentItems? text content position with
  | case1 position inside failed =>
    obtain ⟨items, run, later, turn⟩ := exists_turn stops begun inside
    rw [turn.taken] at failed
    cases failed
  | case2 position inside items next taken ih =>
    obtain ⟨items, run, later, turn⟩ := exists_turn stops begun inside
    obtain ⟨rfl, rfl⟩ := turn.next_eq taken
    rw [ih (by omega), turn.rest_next, Option.map_some, ← turn.items_eq, ← turn.ahead]
  | case3 position ended =>
    rw [rest_eq_nil stops ended, CharClass.contentItems]

/-! ### Negation -/

/-- Whether a content begins with the negation marker. -/
def isNegated? (text : List Char) (content : Span) : Option Bool :=
  if content.start < content.stop then do
    let c ← text[content.start]?
    return c == '^'
  else some false

/-- The part of a content that lists items. -/
def listing (negated : Bool) (content : Span) : Span :=
  if negated then ⟨content.start + 1, content.stop⟩ else content

/-- Marks the rank of an item, if it has one. -/
def mark? (table : List Bool) (item : Alternative) : Option (List Bool) :=
  match Alphabet.rank? item.char with
  | none => some table
  | some rank => if rank < table.length then some (table.set rank true) else none

/-- A table with a place for each rank, in which the ranks of the items are marked. -/
def exclusionTable? (items : List Alternative) : Option (List Bool) :=
  items.foldlM mark? (List.replicate Alphabet.size false)

def bracketed? (text : List Char) (channel : Channel) (content : Span) : Option CharClass := do
  let negated ← isNegated? text content
  let items ← contentItems? text (listing negated content) (listing negated content).start
  if negated then
    let _ ← exclusionTable? items
    return ⟨some channel, .complement (items.map (·.char))⟩
  else return ⟨some channel, .listed items⟩

/-- The class that a span of a text spells. An opening bracket decides that it is bracketed. -/
def charClass? (text : List Char) (span : Span) : Option CharClass :=
  match text[span.start]?.bind Channel.ofOpening? with
  -- The content of a span that ends too early is empty, whatever the text has there.
  | some channel => bracketed? text channel span.content
  | none => do
    let items ← tokenItems? text span span.start
    return ⟨none, .listed items⟩

/-! ### The table of excluded ranks -/

variable (marked : Char → Bool)

/-- Marking the rank of a character marks the character, and no other one. -/
theorem set_map_chars {rank : Nat} {c : Char} (found : Alphabet.rank? c = some rank) :
    rank < (Alphabet.chars.map marked).length ∧
      (Alphabet.chars.map marked).set rank true = Alphabet.chars.map fun d => marked d || d == c := by
  obtain ⟨inside, rfl, -⟩ := List.idxOf?_eq_some_iff.mp found
  refine ⟨by rwa [List.length_map], List.ext_getElem (by simp) fun place within within' => ?_⟩
  rw [List.length_map] at within'
  rw [List.getElem_set, List.getElem_map, List.getElem_map]
  by_cases same : rank = place
  · subst same
    rw [if_pos rfl, beq_self_eq_true, Bool.or_true]
  · have other : (Alphabet.chars[place] == Alphabet.chars[rank]) = false := by
      rw [beq_eq_false_iff_ne, ne_eq, List.Nodup.getElem_inj_iff Alphabet.chars_nodup]
      exact Ne.symm same
    rw [if_neg same, other, Bool.or_false]

theorem map_chars_of_no_rank {c : Char} (unranked : Alphabet.rank? c = none) :
    (Alphabet.chars.map fun d => marked d || d == c) = Alphabet.chars.map marked := by
  apply List.map_congr_left
  intro d member
  have other : (d == c) = false := by
    rw [beq_eq_false_iff_ne]
    rintro rfl
    exact List.idxOf?_eq_none_iff.mp unranked member
  rw [other, Bool.or_false]

theorem mark?_eq_some (item : Alternative) :
    mark? (Alphabet.chars.map marked) item =
      some (Alphabet.chars.map fun d => marked d || d == item.char) := by
  rw [mark?]
  cases found : Alphabet.rank? item.char with
  | none => rw [map_chars_of_no_rank marked found]
  | some rank =>
    obtain ⟨inside, set⟩ := set_map_chars marked found
    simp only [if_pos inside, set]

theorem foldlM_mark? (items : List Alternative) :
    items.foldlM mark? (Alphabet.chars.map marked) =
      some (Alphabet.chars.map fun c => marked c || (items.map Alternative.char).contains c) := by
  induction items generalizing marked with
  | nil => simp
  | cons item items ih =>
    rw [List.foldlM_cons, mark?_eq_some, Option.bind_eq_bind, Option.bind_some, ih]
    simp only [List.map_cons, List.contains_cons, Bool.or_assoc]

/-- No rank is outside the table, and the table tells which characters an item spells. -/
theorem exclusionTable?_eq_some (items : List Alternative) :
    exclusionTable? items =
      some (Alphabet.chars.map fun c => (items.map Alternative.char).contains c) := by
  have unmarked : List.replicate Alphabet.size false = Alphabet.chars.map fun _ => false := rfl
  rw [exclusionTable?, unmarked, foldlM_mark?]
  simp only [Bool.false_or]

/-! ### Classes -/

theorem isNegated?_eq_some (stops : content.stop ≤ text.length) :
    isNegated? text content = some ((content.slice text).head? == some '^') := by
  have slice : content.slice text = rest text content content.start := rfl
  rw [isNegated?, slice]
  split
  next inside =>
    obtain ⟨c, later, ahead⟩ := exists_rest stops inside
    obtain ⟨found, -⟩ := getElem?_of_rest 0 (congrArg (·[0]?) ahead)
    rw [Nat.add_zero] at found
    rw [found, ahead]
    rfl
  next ended => rw [rest_eq_nil stops ended]; rfl

theorem stop_listing (negated : Bool) (content : Span) :
    (listing negated content).stop = content.stop := by
  cases negated <;> rfl

/-- The items behind the negation marker, or from the start if there is none. -/
theorem contentItems?_listing (stops : content.stop ≤ text.length) (negated : Bool) :
    contentItems? text (listing negated content) (listing negated content).start =
      some (CharClass.contentItems none
        (if negated then (content.slice text).tail else content.slice text)) := by
  rw [contentItems?_eq_some ((stop_listing negated content).symm ▸ stops) (Nat.le_refl _),
    previous?, if_pos rfl]
  cases negated with
  | false => rfl
  | true => rw [if_pos rfl, Span.slice, List.tail_drop]; rfl

theorem bracketed?_eq_some (channel : Channel) (stops : content.stop ≤ text.length) :
    bracketed? text channel content = some (CharClass.bracketed channel (content.slice text)) := by
  simp only [bracketed?, isNegated?_eq_some stops, contentItems?_listing stops,
    exclusionTable?_eq_some, Option.bind_eq_bind, Option.bind_some]
  by_cases negated : (content.slice text).head? = some '^'
  · obtain ⟨excluded, begins⟩ := List.head?_eq_some_iff.mp negated
    rw [begins]
    rfl
  · rw [CharClass.bracketed_of_plain channel negated, beq_eq_false_iff_ne.mpr negated]
    rfl

/-- As long as a span does not end behind the text, no access of reading a class is outside the
text, wherever the span starts. -/
theorem charClass?_eq_some (span : Span) (stops : span.stop ≤ text.length) :
    charClass? text span = some (CharClass.ofSpan text span.start span.stop) := by
  unfold charClass? CharClass.ofSpan
  cases text[span.start]?.bind Channel.ofOpening? with
  | some channel => exact bracketed?_eq_some channel (Nat.le_trans (Nat.sub_le _ 1) stops)
  | none => simp only [tokenItems?_eq_some stops, Option.bind_eq_bind, Option.bind_some]; rfl

end TuringScript.Indexed
