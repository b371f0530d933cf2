/-!
# Lines

A text is cut at its newlines. A carriage return right before a newline belongs to the line end;
one at the very end of the text does not. Text after the last newline is a line of its own, unless
it is empty.
-/
namespace TuringScript.Text

/-- Drops the carriage return that a line, given last character first, ends with. -/
def dropReturn : List Char → List Char
  | '\r' :: line => line
  | line => line

/-- `finished` and `current` are in reverse order: the lines cut so far, and the characters since. -/
def linesAfter (finished : List (List Char)) (current : List Char) :
    List Char → List (List Char)
  | [] => (if current.isEmpty then finished else current.reverse :: finished).reverse
  | '\n' :: rest => linesAfter ((dropReturn current).reverse :: finished) [] rest
  | c :: rest => linesAfter finished (c :: current) rest

def lines (text : List Char) : List (List Char) := linesAfter [] [] text

/-- Finished lines only stand before the ones still to come. -/
theorem linesAfter_eq_append (finished : List (List Char)) (current text : List Char) :
    linesAfter finished current text = finished.reverse ++ linesAfter [] current text := by
  induction text generalizing finished current with
  | nil => by_cases empty : current.isEmpty <;> simp [linesAfter, empty]
  | cons c rest ih =>
    by_cases newline : c = '\n'
    · subst newline
      simp only [linesAfter]
      rw [ih, ih [(dropReturn current).reverse]]
      simp
    · simp only [linesAfter]
      exact ih finished (c :: current)

end TuringScript.Text
