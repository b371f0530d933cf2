import TuringScript.Proofs.Source.Encoding

/-!
# Cutting into lines

The bytes of a text are cut where the text is, into the bytes of its lines. Any bytes whatever are
cut into a text of whole lines, one line that is at fault or unfinished, and the rest.
-/
namespace TuringScript

namespace Text

/-- A text in which every line is terminated. -/
def WholeLines (text : List Char) : Prop := ∀ c ∈ text.getLast?, c = '\n'

instance (text : List Char) : Decidable (WholeLines text) :=
  decidable_of_iff (text.getLast?.all (· == '\n') = true) (by
    cases last : text.getLast? <;> simp [WholeLines, last])

theorem wholeLines_iff (text : List Char) :
    WholeLines text ↔ text = [] ∨ ∃ front, text = front ++ ['\n'] := by
  rcases text.eq_nil_or_concat with rfl | ⟨front, c, rfl⟩ <;> simp [WholeLines]

/-- Whole lines stay whole with one more line before them. -/
theorem WholeLines.line_append {text : List Char} (whole : WholeLines text) (line : List Char) :
    WholeLines (line ++ '\n' :: text) := by
  rw [wholeLines_iff] at whole ⊢
  rcases whole with rfl | ⟨front, rfl⟩
  · exact .inr ⟨line, rfl⟩
  · exact .inr ⟨line ++ '\n' :: front, by simp⟩

theorem length_linesAfter_newline (finished : List (List Char)) (current front : List Char) :
    (linesAfter finished current (front ++ ['\n'])).length =
      finished.length + front.count '\n' + 1 := by
  induction front generalizing finished current with
  | nil => simp [linesAfter]
  | cons c front ih =>
    by_cases newline : c = '\n'
    · subst newline
      simp only [List.cons_append, linesAfter, ih, List.length_cons, List.count_cons_self]
      omega
    · simp only [List.cons_append, linesAfter, ih, List.count_cons_of_ne newline]

/-- There are as many whole lines as newlines. -/
theorem length_lines {text : List Char} (whole : WholeLines text) :
    (lines text).length = text.count '\n' := by
  rcases (wholeLines_iff text).mp whole with rfl | ⟨front, rfl⟩
  · rfl
  · simp [lines, length_linesAfter_newline]

end Text

namespace LineBuffer

/-- The lines of a buffer if no byte comes any more. -/
def lines (buffer : LineBuffer) : List (List UInt8) :=
  buffer.complete.reverse ++ if buffer.pending.isEmpty then [] else [buffer.pending.reverse]

theorem feed_newline_cons (buffer : LineBuffer) (rest : List UInt8) :
    buffer.feed (10 :: rest) =
      feed ⟨(dropReturn buffer.pending).reverse :: buffer.complete, []⟩ rest := rfl

theorem feed_of_no_newline (buffer : LineBuffer) {bytes : List UInt8} (single : 10 ∉ bytes) :
    buffer.feed bytes = { buffer with pending := bytes.reverse ++ buffer.pending } := by
  induction bytes generalizing buffer with
  | nil => rfl
  | cons byte bytes ih =>
    have kept : buffer.push byte = { buffer with pending := byte :: buffer.pending } :=
      if_neg (List.ne_of_not_mem_cons single).symm
    change (buffer.push byte).feed bytes = _
    rw [kept, ih _ (List.not_mem_of_not_mem_cons single)]
    simp

/-- Complete lines only stand before the ones still to come. -/
theorem complete_feed (complete : List (List UInt8)) (pending bytes : List UInt8) :
    (feed ⟨complete, pending⟩ bytes).complete =
      (feed ⟨[], pending⟩ bytes).complete ++ complete := by
  induction bytes generalizing complete pending with
  | nil => rfl
  | cons byte bytes ih =>
    by_cases newline : byte = 10
    · subst newline
      rw [feed_newline_cons, feed_newline_cons, ih, ih [_]]
      simp
    · have kept (complete : List (List UInt8)) :
          push ⟨complete, pending⟩ byte = ⟨complete, byte :: pending⟩ := if_neg newline
      change (feed (push _ byte) bytes).complete = (feed (push _ byte) bytes).complete ++ complete
      rw [kept, kept, ih]

/-- The bytes of a text are cut into the bytes of its lines. -/
theorem lines_feed_utf8 (finished : List (List Char)) (current text : List Char) :
    (feed ⟨finished.map Text.utf8, (Text.utf8 current.reverse).reverse⟩ (Text.utf8 text)).lines =
      (Text.linesAfter finished current text).map Text.utf8 := by
  -- All along, the buffer holds in bytes what has been cut off the text and what is left over.
  induction text generalizing finished current with
  | nil =>
    rcases current with _ | ⟨c, current⟩
    · simp [Text.utf8, feed, lines, Text.linesAfter]
    · simp [Text.utf8, feed, lines, Text.linesAfter]
  | cons c text ih =>
    by_cases newline : c = '\n'
    · subst newline
      have cut : (dropReturn (Text.utf8 current.reverse).reverse).reverse =
          Text.utf8 (Text.dropReturn current).reverse := by
        rw [Text.dropReturn_utf8, List.reverse_reverse]
      change (feed _ (10 :: Text.utf8 text)).lines = _
      rw [feed_newline_cons, Text.linesAfter, ← ih, cut]
      rfl
    · have single : 10 ∉ String.utf8EncodeChar c :=
        mt (Text.newline_mem_utf8EncodeChar c).mp newline
      have longer : (Text.utf8 (c :: current).reverse).reverse =
          (String.utf8EncodeChar c).reverse ++ (Text.utf8 current.reverse).reverse := by
        simp [Text.utf8]
      change (feed _ (String.utf8EncodeChar c ++ Text.utf8 text)).lines = _
      rw [feed_append, feed_of_no_newline _ single, ← longer, ih, Text.linesAfter]
      exact newline

/-- Whole lines leave nothing pending. -/
theorem feed_wholeLines {text : List Char} (whole : Text.WholeLines text) :
    empty.feed (Text.utf8 text) = ⟨((Text.lines text).map Text.utf8).reverse, []⟩ := by
  have cut := lines_feed_utf8 [] [] text
  have done : (empty.feed (Text.utf8 text)).pending = [] := by
    rcases (Text.wholeLines_iff text).mp whole with rfl | ⟨front, rfl⟩
    · rfl
    · rw [Text.utf8_append, feed_append]
      rfl
  change (empty.feed (Text.utf8 text)).lines = _ at cut
  rw [lines, done, List.isEmpty_nil, if_pos rfl, List.append_nil] at cut
  change (empty.feed (Text.utf8 text)).complete.reverse = (Text.lines text).map Text.utf8 at cut
  rw [← cut, List.reverse_reverse, ← done]

end LineBuffer

/-- Bytes begin with a text of whole lines. The line after it is the last one, or is not UTF-8 and
ends with a newline. -/
theorem Text.exists_wholeLines (bytes : List UInt8) :
    ∃ before line rest, bytes = utf8 before ++ (line ++ rest) ∧ WholeLines before ∧ 10 ∉ line ∧
      (rest = [] ∨ ¬ IsUtf8 line ∧ ∃ after, rest = 10 :: after) := by
  -- Along the lines: the bytes after the first newline are fewer.
  induction count : bytes.length using Nat.strongRecOn generalizing bytes with
  | ind size ih =>
    by_cases newline : 10 ∈ bytes
    · obtain ⟨line, after, rfl, single⟩ := List.eq_append_cons_of_mem newline
      by_cases readable : IsUtf8 line
      · obtain ⟨text, rfl⟩ := readable
        have fewer : after.length < size := by
          rw [← count, List.length_append, List.length_cons]
          omega
        obtain ⟨before, lost, rest, rfl, whole, others⟩ := ih after.length fewer after rfl
        refine ⟨text ++ '\n' :: before, lost, rest, ?_, whole.line_append text, others⟩
        rw [utf8_append, List.append_assoc]
        rfl
      · exact ⟨[], line, 10 :: after, rfl, nofun, single, .inr ⟨readable, after, rfl⟩⟩
    · exact ⟨[], bytes, [], (List.append_nil bytes).symm, nofun, newline, .inl rfl⟩

end TuringScript
