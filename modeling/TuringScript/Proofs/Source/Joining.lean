import TuringScript.Proofs.RuleLine.EndingReturn
import TuringScript.Proofs.Source.Renumbering
import TuringScript.Proofs.Source.Streaming

/-!
# Joined sources

A source that is accepted can be followed by another one on a line of its own: each of them reads as
it does alone, apart from the numbers of the later lines. The newline between them may end a line
that was open before, and takes the carriage return at its end away.
-/
namespace TuringScript

/-! ### Lines of a joined text -/

namespace Text

theorem linesAfter_newline_append (finished : List (List Char)) (current front back : List Char) :
    linesAfter finished current (front ++ '\n' :: back) =
      linesAfter finished current (front ++ ['\n']) ++ lines back := by
  induction front generalizing finished current with
  | nil => exact linesAfter_eq_append _ [] back
  | cons c front ih =>
    by_cases newline : c = '\n'
    · subst newline
      exact ih _ _
    · simp only [List.cons_append, linesAfter]
      exact ih _ _

/-- Whole lines are cut off by themselves. -/
theorem lines_append {front : List Char} (whole : WholeLines front) (back : List Char) :
    lines (front ++ back) = lines front ++ lines back := by
  rcases (wholeLines_iff front).mp whole with rfl | ⟨front, rfl⟩
  · rfl
  · rw [List.append_assoc]
    exact linesAfter_newline_append [] [] front back

/-- A newline at the end of a text is one more line, or ends the last one. -/
theorem linesAfter_newline_cases (finished : List (List Char)) (current text : List Char) :
    linesAfter finished current (text ++ ['\n']) = linesAfter finished current text ++ [[]] ∨
      ∃ front last, linesAfter finished current text = front ++ [last.reverse] ∧
        linesAfter finished current (text ++ ['\n']) = front ++ [(dropReturn last).reverse] := by
  induction text generalizing finished current with
  | nil =>
    rcases current with _ | ⟨c, current⟩
    · exact .inl (by simp [linesAfter, dropReturn])
    · exact .inr ⟨finished.reverse, c :: current, by simp [linesAfter], by simp [linesAfter]⟩
  | cons c text ih =>
    by_cases newline : c = '\n'
    · subst newline
      exact ih _ _
    · simp only [List.cons_append, linesAfter]
      exact ih _ _

end Text

namespace ByteStream

theorem textLines_append {front : String} (whole : Text.WholeLines front.toList) (back : String) :
    textLines (front ++ back) = textLines front ++ textLines back := by
  simp only [textLines, String.toList_append, Text.lines_append whole, List.map_append]

theorem textLines_newline_cases (source : String) :
    textLines (source ++ "\n") = textLines source ++ [.ok ""] ∨
      ∃ front last, textLines source = front ++ [.ok (String.ofList last.reverse)] ∧
        textLines (source ++ "\n") =
          front ++ [.ok (String.ofList (Text.dropReturn last).reverse)] := by
  have cases := Text.linesAfter_newline_cases [] [] source.toList
  simp only [textLines, String.toList_append, Text.lines]
  rcases cases with empty | ⟨front, last, before, after⟩
  · exact .inl ((congrArg _ empty).trans List.map_append)
  · exact .inr ⟨_, last, (congrArg _ before).trans List.map_append,
      (congrArg _ after).trans List.map_append⟩

end ByteStream

/-! ### Readings -/

namespace Reading

/-- The last line may be replaced by one that reads alike where it is without a fault. -/
theorem ofLines_concat_congr {dialect : Dialect} {front : List (Except String String)}
    {line other : String} (faultless : (ofLines dialect (front ++ [.ok line])).error? = none)
    (alike : ∀ number, (dialect.readLine number line).fault? = none →
      dialect.readLine number other = dialect.readLine number line) :
    ofLines dialect (front ++ [.ok other]) = ofLines dialect (front ++ [.ok line]) := by
  rw [error?_ofLines, reportsFrom_append, error?_append, Option.or_eq_none_iff,
    reportsFrom_singleton] at faultless
  have last : (dialect.readLine (front.length + 1) line).fault? = none := by
    simpa [error?] using faultless.2
  simp only [ofLines_eq, reportsFrom_append, reportsFrom_singleton, alike _ last]

/-- Lines after lines without a fault give the reading they give alone, further down. -/
theorem ofLines_append_shift {dialect : Dialect} {front : List (Except String String)}
    (faultless : (ofLines dialect front).error? = none) (back : List (Except String String)) :
    ofLines dialect (front ++ back) = ⟨(ofLines dialect front).reports ++
      ((ofLines dialect back).shift front.length).reports⟩ := by
  rw [ofLines_append_of_faultless faultless, Nat.add_comm, untilFault_reportsFrom_add]

theorem result_eq_ok_iff (reading : Reading) (count : Nat) :
    reading.result = .ok count ↔ reading.error? = none ∧ reading.rules.length = count := by
  simp only [result, accepted]
  cases reading.error? <;> simp [Except.map]

end Reading

namespace Dialect

open Reading

theorem readLine_empty (dialect : Dialect) (number : Nat) :
    dialect.readLine number "" = .skipped := by
  rw [readLine_eq]
  cases folds : dialect.ignoreCase <;> simp [fold, folds, skips]

/-- A newline at the end of an accepted source makes no difference. -/
theorem read_newline {dialect : Dialect} {source : String}
    (faultless : (dialect.read source).error? = none) :
    (dialect.read (source ++ "\n")).error? = none ∧
      (dialect.read (source ++ "\n")).rules = (dialect.read source).rules := by
  rw [ByteStream.read_eq] at faultless
  rcases ByteStream.textLines_newline_cases source with added | ⟨front, last, before, after⟩
  -- An empty line is skipped.
  · have skipped : ofLines dialect [.ok ""] = ⟨[⟨1, .skipped⟩]⟩ := by
      rw [ofLines_eq, reportsFrom_singleton, readLine_empty]
      rfl
    rw [ByteStream.read_eq, ByteStream.read_eq, added, ofLines_append_shift faultless,
      skipped, error?_append, rules_append]
    exact ⟨Option.or_eq_none_iff.mpr ⟨faultless, rfl⟩, List.append_nil _⟩
  -- The line that was open loses the carriage return that it may end with.
  · rw [before] at faultless
    have same := ofLines_concat_congr faultless fun number => readLine_dropReturn
    rw [ByteStream.read_eq, ByteStream.read_eq, before, after, same]
    exact ⟨faultless, rfl⟩

/-- Whole lines without a fault, and what is read behind them. -/
theorem read_append {dialect : Dialect} {front : String} (whole : Text.WholeLines front.toList)
    (faultless : (dialect.read front).error? = none) (back : String) :
    dialect.read (front ++ back) = ⟨(dialect.read front).reports ++
      ((dialect.read back).shift (front.toList.count '\n')).reports⟩ := by
  have number : (ByteStream.textLines front).length = front.toList.count '\n' := by
    rw [ByteStream.textLines, List.length_map, Text.length_lines whole]
  rw [ByteStream.read_eq] at faultless
  rw [ByteStream.read_eq, ByteStream.textLines_append whole, ofLines_append_shift faultless, number]
  rfl

/-- A source that is accepted and another one, joined by a newline. Each gives the rules that it
gives alone, those of the second one on lines further down by the lines of the first one. The
numbers of rules add up, unless the second source is at fault. -/
theorem read_joined (dialect : Dialect) (first second : String) (count : Nat)
    (reads : (dialect.read first).result = .ok count) :
    (dialect.read (first ++ "\n" ++ second)).rules = (dialect.read first).rules ++
      (dialect.read second).rules.map (Rule.shift (1 + first.toList.count '\n')) ∧
    (dialect.read (first ++ "\n" ++ second)).result =
      match (dialect.read second).result with
      | .ok more => .ok (count + more)
      | .error error => .error (error.shift (1 + first.toList.count '\n')) := by
  obtain ⟨faultless, rfl⟩ := (result_eq_ok_iff _ _).mp reads
  -- Ended by the newline, the first source is made of whole lines and still without a fault.
  obtain ⟨closed, same⟩ := read_newline faultless
  have whole : Text.WholeLines (first ++ "\n").toList := by simp [Text.WholeLines]
  have number : (first ++ "\n").toList.count '\n' = 1 + first.toList.count '\n' := by
    simp [Nat.add_comm]
  have rules : (dialect.read (first ++ "\n" ++ second)).rules = (dialect.read first).rules ++
      (dialect.read second).rules.map (Rule.shift (1 + first.toList.count '\n')) := by
    rw [read_append whole closed, rules_append, rules_shift, same, number]
  have error : (dialect.read (first ++ "\n" ++ second)).error? =
      (dialect.read second).error?.map (ParseError.shift (1 + first.toList.count '\n')) := by
    rw [read_append whole closed, error?_append, error?_shift, closed, number, Option.none_or]
  refine ⟨rules, ?_⟩
  simp only [result, accepted, error, rules]
  cases (dialect.read second).error? with
  | none => simp [Except.map]
  | some fault => rfl

/-- Its second line is open and ends with a carriage return, in a comment. -/
def openSource : String := "(A,0,B,1,>)\nB,[01],C,0,< # turn\r"

/-- Its second line ends with its destination state. -/
def brokenSource : String := "C,0,A,0,-\nC,1,A"

theorem read_joined_openSource :
    (standard.read openSource).result = .ok 3 ∧
    (standard.read (openSource ++ "\n" ++ brokenSource)).rules =
      [⟨⟨"A", '0'⟩, ⟨"B", '1', .right⟩, 1⟩, ⟨⟨"B", '0'⟩, ⟨"C", '0', .left⟩, 2⟩,
        ⟨⟨"B", '1'⟩, ⟨"C", '0', .left⟩, 2⟩, ⟨⟨"C", '0'⟩, ⟨"A", '0', .stay⟩, 3⟩] ∧
    (standard.read (openSource ++ "\n" ++ brokenSource)).result =
      .error ⟨.unexpectedEnd, 4⟩ := by
  have accepted : (standard.read openSource).result = .ok 3 :=
    (result_eq_ok_iff _ _).mpr ⟨by decide +kernel, by decide +kernel⟩
  obtain ⟨rules, result⟩ := read_joined standard openSource brokenSource 3 accepted
  have broken : (standard.read brokenSource).error? = some ⟨.unexpectedEnd, 2⟩ := by
    decide +kernel
  have number : 1 + openSource.toList.count '\n' = 2 := by decide +kernel
  refine ⟨accepted, rules.trans ?_, result.trans ?_⟩
  · decide +kernel
  · rw [Reading.result, Reading.accepted, broken, number]
    rfl

end Dialect
end TuringScript
