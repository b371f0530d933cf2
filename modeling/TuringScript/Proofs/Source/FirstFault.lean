import TuringScript.Source

/-!
# The first fault

Reading lines one after another: once a line is at fault the lines after it do not count, and until
then every line adds its report.
-/
namespace TuringScript.Reading

theorem untilFault_cons (report : LineReport) (reports : List LineReport) :
    untilFault (report :: reports) =
      if report.outcome.fault?.isNone then report :: untilFault reports else [report] := by
  unfold untilFault
  by_cases faultless : report.outcome.fault?.isNone <;> simp [faultless]

theorem error?_cons (report : LineReport) (reports : List LineReport) :
    (Reading.mk (report :: reports)).error? =
      (report.outcome.fault?.map fun fault => ⟨fault, report.number⟩).or
        (Reading.mk reports).error? := by
  unfold error?
  rw [List.findSome?_cons]
  cases report.outcome.fault? <;> rfl

theorem error?_append (front back : List LineReport) :
    (Reading.mk (front ++ back)).error? =
      (Reading.mk front).error?.or (Reading.mk back).error? :=
  List.findSome?_append

theorem rules_append (front back : List LineReport) :
    (Reading.mk (front ++ back)).rules = (Reading.mk front).rules ++ (Reading.mk back).rules :=
  List.flatMap_append

/-- Reports after the first fault are of no account. -/
theorem error?_untilFault (reports : List LineReport) :
    (Reading.mk (untilFault reports)).error? = (Reading.mk reports).error? := by
  induction reports with
  | nil => rfl
  | cons report reports ih =>
    rw [untilFault_cons, error?_cons]
    cases fault : report.outcome.fault? with
    | none => simp [error?_cons, fault, ih]
    | some fault => simp [error?_cons, *]

theorem untilFault_append (front back : List LineReport) :
    untilFault (front ++ back) =
      if (Reading.mk front).error? = none then front ++ untilFault back else untilFault front := by
  -- Along the front part: a fault in it ends both sides at once.
  induction front with
  | nil => rfl
  | cons report front ih =>
    rw [List.cons_append, untilFault_cons, untilFault_cons, error?_cons, ih]
    cases report.outcome.fault? with
    | none => by_cases faultless : (Reading.mk front).error? = none <;> simp [faultless]
    | some fault => rfl

theorem untilFault_of_faultless {reports : List LineReport}
    (faultless : (Reading.mk reports).error? = none) : untilFault reports = reports := by
  have all := untilFault_append reports []
  rw [List.append_nil, if_pos faultless] at all
  exact all.trans (List.append_nil reports)

/-! ### Reports by line number -/

/-- The reports of lines counted from `first` on, those after a fault included. -/
def reportsFrom (dialect : Dialect) (first : Nat) (lines : List (Except String String)) :
    List LineReport :=
  lines.mapIdx fun index line =>
    { number := index + first
      outcome := match line with
        | .ok text => dialect.readLine (index + first) text
        | .error reason => .unreadable reason }

theorem ofLines_eq (dialect : Dialect) (lines : List (Except String String)) :
    ofLines dialect lines = ⟨untilFault (reportsFrom dialect 1 lines)⟩ := rfl

theorem reportsFrom_append (dialect : Dialect) (first : Nat)
    (front back : List (Except String String)) :
    reportsFrom dialect first (front ++ back) =
      reportsFrom dialect first front ++ reportsFrom dialect (front.length + first) back := by
  simp only [reportsFrom, List.mapIdx_append, Nat.add_assoc]

theorem reportsFrom_cons_error (dialect : Dialect) (first : Nat) (reason : String)
    (lines : List (Except String String)) :
    reportsFrom dialect first (.error reason :: lines) =
      ⟨first, .unreadable reason⟩ :: reportsFrom dialect (1 + first) lines := by
  rw [← List.singleton_append, reportsFrom_append, reportsFrom, List.mapIdx_cons, Nat.zero_add]
  rfl

theorem reportsFrom_singleton (dialect : Dialect) (first : Nat) (line : String) :
    reportsFrom dialect first [.ok line] = [⟨first, dialect.readLine first line⟩] := by
  simp [reportsFrom]

theorem error?_ofLines (dialect : Dialect) (lines : List (Except String String)) :
    (ofLines dialect lines).error? = (Reading.mk (reportsFrom dialect 1 lines)).error? :=
  error?_untilFault _

/-! ### More lines behind -/

variable {dialect : Dialect} {front : List (Except String String)}

/-- Lines after a fault are not read. -/
theorem ofLines_append_of_fault (fault : (ofLines dialect front).error? ≠ none)
    (back : List (Except String String)) :
    ofLines dialect (front ++ back) = ofLines dialect front := by
  rw [error?_ofLines] at fault
  rw [ofLines_eq, reportsFrom_append, untilFault_append, if_neg fault, ← ofLines_eq]

/-- Lines after lines without a fault are read up to the first fault among them. -/
theorem ofLines_append_of_faultless (faultless : (ofLines dialect front).error? = none)
    (back : List (Except String String)) :
    ofLines dialect (front ++ back) = ⟨(ofLines dialect front).reports ++
      untilFault (reportsFrom dialect (front.length + 1) back)⟩ := by
  rw [error?_ofLines] at faultless
  simp only [ofLines_eq]
  rw [reportsFrom_append, untilFault_append, if_pos faultless, untilFault_of_faultless faultless]

/-- The report of the first line that cannot be fetched is the last one. -/
theorem ofLines_of_lost (faultless : (ofLines dialect front).error? = none) (reason : String)
    (back : List (Except String String)) :
    ofLines dialect (front ++ .error reason :: back) =
      ⟨(ofLines dialect front).reports ++ [⟨front.length + 1, .unreadable reason⟩]⟩ := by
  rw [ofLines_append_of_faultless faultless, reportsFrom_cons_error, untilFault_cons]
  rfl

theorem rules_of_lost (faultless : (ofLines dialect front).error? = none) (reason : String)
    (back : List (Except String String)) :
    (ofLines dialect (front ++ .error reason :: back)).rules = (ofLines dialect front).rules := by
  rw [ofLines_of_lost faultless, rules_append]
  exact List.append_nil _

theorem error?_of_lost (faultless : (ofLines dialect front).error? = none) (reason : String)
    (back : List (Except String String)) :
    (ofLines dialect (front ++ .error reason :: back)).error? =
      some ⟨.unreadable (some reason), front.length + 1⟩ := by
  rw [ofLines_of_lost faultless, error?_append, faultless]
  rfl

end TuringScript.Reading
