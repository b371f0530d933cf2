import TuringScript.Proofs.Source.Joining

/-!
# Sources made of lines

Lines of which none has a newline in it or a carriage return at its end are left as they are when
they are put together and the text is cut again. Only an empty line at the very end is lost, and it
does not count.
-/
namespace TuringScript

/-! ### Texts that are lists of lines -/

namespace Text

/-- A line that is left as it is when a newline is put behind it and the text is cut again. -/
def IsLine (line : List Char) : Prop := '\n' ∉ line ∧ line.getLast? ≠ some '\r'

instance (line : List Char) : Decidable (IsLine line) := inferInstanceAs (Decidable (_ ∧ _))

theorem linesAfter_of_no_newline {front : List Char} (single : '\n' ∉ front)
    (finished : List (List Char)) (current back : List Char) :
    linesAfter finished current (front ++ back) =
      linesAfter finished (front.reverse ++ current) back := by
  induction front generalizing current with
  | nil => rfl
  | cons c front ih =>
    have other : c ≠ '\n' := (List.ne_of_not_mem_cons single).symm
    rw [List.cons_append, linesAfter, ih (List.not_mem_of_not_mem_cons single)]
    · simp
    · exact other

theorem dropReturn_reverse {line : List Char} (isLine : IsLine line) :
    dropReturn line.reverse = line.reverse := by
  have last := isLine.2
  rw [← List.head?_reverse] at last
  unfold dropReturn
  split
  next same => simp [same] at last
  next => rfl

theorem lines_line_append {line : List Char} (isLine : IsLine line) (rest : List Char) :
    lines (line ++ '\n' :: rest) = line :: lines rest := by
  rw [lines, linesAfter_of_no_newline isLine.1, List.append_nil, linesAfter,
    dropReturn_reverse isLine, linesAfter_eq_append]
  simp [lines]

/-- A line that nothing comes after is cut off only if there is something in it. -/
theorem lines_of_no_newline {line : List Char} (single : '\n' ∉ line) :
    lines line = if line = [] then [] else [line] := by
  have whole := linesAfter_of_no_newline single [] [] []
  rw [List.append_nil, List.append_nil] at whole
  rw [lines, whole, linesAfter]
  simp only [List.isEmpty_reverse, List.isEmpty_iff, List.reverse_reverse]
  split <;> rfl

/-- Lines with newlines between them. -/
theorem lines_intercalate {all : List (List Char)} (areLines : ∀ line ∈ all, IsLine line) :
    lines (['\n'].intercalate all) = all ∨ all = lines (['\n'].intercalate all) ++ [[]] := by
  induction all with
  | nil => exact .inl rfl
  | cons line later ih =>
    obtain ⟨isLine, others⟩ := List.forall_mem_cons.mp areLines
    rcases later with _ | ⟨next, later⟩
    · rw [List.intercalate_singleton, lines_of_no_newline isLine.1]
      by_cases empty : line = [] <;> simp [empty]
    · rw [List.intercalate_cons_cons, List.append_assoc, List.singleton_append,
        lines_line_append isLine, List.cons_append, List.cons.injEq, List.cons.injEq]
      exact (ih others).imp (⟨rfl, ·⟩) (⟨rfl, ·⟩)

end Text

/-! ### Reading lines -/

namespace Reading

variable (dialect : Dialect)

/-- An empty line at the end is not at fault and has no rules. -/
theorem ofLines_append_empty (front : List (Except String String)) :
    (ofLines dialect (front ++ [.ok ""])).error? = (ofLines dialect front).error? ∧
      (ofLines dialect (front ++ [.ok ""])).rules = (ofLines dialect front).rules := by
  by_cases faultless : (ofLines dialect front).error? = none
  · have skipped : untilFault (reportsFrom dialect (front.length + 1) [.ok ""]) =
        [⟨front.length + 1, .skipped⟩] := by
      rw [reportsFrom_singleton, Dialect.readLine_empty]
      rfl
    rw [ofLines_append_of_faultless faultless, skipped, error?_append, rules_append]
    exact ⟨Option.or_none, List.append_nil _⟩
  · rw [ofLines_append_of_fault faultless]
    exact ⟨rfl, rfl⟩

/-! ### Rules by line number -/

section Numbers

variable {dialect : Dialect} {lines : List (Except String String)}
  (accepted : (ofLines dialect lines).error? = none)
include accepted

theorem reports_of_accepted : (ofLines dialect lines).reports = reportsFrom dialect 1 lines := by
  rw [error?_ofLines] at accepted
  rw [ofLines_eq, untilFault_of_faultless accepted]

variable {index : Nat} {line : String}

theorem fault?_of_accepted (listed : lines[index]? = some (.ok line)) :
    (dialect.readLine (index + 1) line).fault? = none := by
  have report : ⟨index + 1, dialect.readLine (index + 1) line⟩ ∈
      (ofLines dialect lines).reports := by
    obtain ⟨inside, text⟩ := List.getElem?_eq_some_iff.mp listed
    rw [reports_of_accepted accepted, reportsFrom, List.mem_mapIdx]
    exact ⟨index, inside, by rw [text]⟩
  simpa using List.findSome?_eq_none_iff.mp accepted _ report

/-- The rules with the number of a line are those of that line. -/
theorem mem_rules_iff_of_accepted (listed : lines[index]? = some (.ok line)) (rule : Rule) :
    rule ∈ (ofLines dialect lines).rules ∧ rule.line = index + 1 ↔
      rule ∈ (dialect.readLine (index + 1) line).rules := by
  rw [rules, reports_of_accepted accepted, List.mem_flatMap, reportsFrom]
  simp only [List.mem_mapIdx]
  constructor
  · rintro ⟨⟨_, ⟨other, inside, rfl⟩, member⟩, number⟩
    cases found : lines[other] with
    | error reason =>
      rw [found] at member
      cases member
    | ok text =>
      rw [found] at member
      have there : lines[other]? = some (.ok text) := by rw [List.getElem?_eq_getElem inside, found]
      have own := Dialect.line_of_mem_readLine (fault?_of_accepted accepted there) member
      obtain rfl : other = index := Nat.succ.inj (own.symm.trans number)
      cases there.symm.trans listed
      exact member
  · intro member
    obtain ⟨inside, text⟩ := List.getElem?_eq_some_iff.mp listed
    refine ⟨⟨_, ⟨index, inside, rfl⟩, ?_⟩,
      Dialect.line_of_mem_readLine (fault?_of_accepted accepted listed) member⟩
    rw [text]
    exact member

end Numbers

end Reading

/-- A source of lines with newlines between them is read line by line. -/
theorem Dialect.read_intercalate (dialect : Dialect) {lines : List String}
    (areLines : ∀ line ∈ lines, Text.IsLine line.toList) :
    (dialect.read ("\n".intercalate lines)).error? =
        (Reading.ofLines dialect (lines.map .ok)).error? ∧
      (dialect.read ("\n".intercalate lines)).rules =
        (Reading.ofLines dialect (lines.map .ok)).rules := by
  have texts : ∀ text ∈ lines.map String.toList, Text.IsLine text := by
    simpa only [List.forall_mem_map] using areLines
  have spelled : (lines.map String.toList).map
      (fun text => Except.ok (ε := String) (String.ofList text)) = lines.map .ok := by
    simp [Function.comp_def]
  rw [← spelled, ByteStream.read_eq, ByteStream.textLines, String.toList_intercalate]
  change (Reading.ofLines dialect ((Text.lines (['\n'].intercalate _)).map _)).error? = _ ∧
    (Reading.ofLines dialect ((Text.lines (['\n'].intercalate _)).map _)).rules = _
  rcases Text.lines_intercalate texts with same | shorter
  · rw [same]
    exact ⟨rfl, rfl⟩
  · generalize Text.lines (['\n'].intercalate (lines.map String.toList)) = cut at shorter ⊢
    rw [shorter, List.map_append]
    obtain ⟨error, rules⟩ := Reading.ofLines_append_empty dialect
      (cut.map fun text => .ok (String.ofList text))
    exact ⟨error.symm, rules.symm⟩

end TuringScript
