import LogQuery.Pipeline.Step.Search
import LogQuery.Proofs.Outcome
import LogQuery.Proofs.Time.Timestamp

/-!
# Time bounds of a search

The bounds of a time range reach a search step as the texts of two options.  They take the place of
options of the same names, and a step that compiles with them has exactly these bounds.
-/

namespace LogQuery

open LogQuery.Query LogQuery.Time

/-- The bounds of the range, if it has any, lie in the years 0 to 9999. -/
structure TimeRange.HasPlainYears (range : TimeRange) : Prop where
  start : ∀ instant, range.start? = some instant → instant.HasPlainYear
  stop : ∀ instant, range.stop? = some instant → instant.HasPlainYear

namespace Pipeline.SearchStep

variable {value : String} {options : Fields} {range : TimeRange} {step : SearchStep}

/-- Options give a bound if there is none under the name, or if what is there can be read. -/
theorem readTime_eq_ok_iff {name : String} {bound? : Option Instant} :
    readTime options name = .ok bound? ↔
      options[name]?.map Instant.ofTimestamp? = bound?.map some := by
  unfold readTime
  cases options[name]? with
  | none =>
      cases bound? with
      | none => simp
      | some bound => simp
  | some text =>
      cases read : Instant.ofTimestamp? text with
      | none =>
          cases bound? with
          | none => simp [read]
          | some bound => simp [read]
      | some instant =>
          cases bound? with
          | none => simp [read]
          | some bound => simp [read]

theorem compile_eq_ok_iff :
    compile value options = .ok step ↔
      readTime options startOption = .ok step.range.start? ∧
        readTime options stopOption = .ok step.range.stop? ∧
          Search.read value = .ok step.search := by
  unfold compile
  simp only [bind_eq_ok, mapError_eq_ok_iff, Except.ok.injEq]
  constructor
  · rintro ⟨start?, startRead, stop?, stopRead, search, searchRead, rfl⟩
    exact ⟨startRead, stopRead, searchRead⟩
  · rintro ⟨startRead, stopRead, searchRead⟩
    exact ⟨_, startRead, _, stopRead, _, searchRead, rfl⟩

theorem getElem?_bound_start :
    (bound range options)[startOption]? =
      (range.start?.map (·.timestamp)).or options[startOption]? := by
  have different : compare stopOption startOption ≠ .eq := by decide
  unfold bound
  cases range.start? with
  | none =>
      cases range.stop? with
      | none => rfl
      | some stop => exact Std.ExtTreeMap.getElem?_insert.trans (if_neg different)
  | some start =>
      cases range.stop? with
      | none => exact Std.ExtTreeMap.getElem?_insert_self
      | some stop =>
          refine (Std.ExtTreeMap.getElem?_insert.trans (if_neg different)).trans ?_
          exact Std.ExtTreeMap.getElem?_insert_self

theorem getElem?_bound_stop :
    (bound range options)[stopOption]? =
      (range.stop?.map (·.timestamp)).or options[stopOption]? := by
  have different : compare startOption stopOption ≠ .eq := by decide
  unfold bound
  cases range.stop? with
  | none =>
      cases range.start? with
      | none => rfl
      | some start => exact Std.ExtTreeMap.getElem?_insert.trans (if_neg different)
  | some stop => exact Std.ExtTreeMap.getElem?_insert_self

/-- What is read where an instant was written is that instant. -/
theorem eq_of_readTime {name : String} {bound? : Option Instant} {written : Instant}
    (read : readTime options name = .ok bound?) (given : options[name]? = some written.timestamp) :
    bound? = some written := by
  rw [readTime_eq_ok_iff, given] at read
  obtain ⟨found, bound_eq, isRead⟩ := Option.map_eq_some_iff.mp read.symm
  rw [bound_eq, Instant.eq_of_ofTimestamp?_timestamp isRead.symm]

/-- A first instant that is written into the options is the first instant of the step. -/
theorem start?_of_compile_bound (compiled : compile value (bound range options) = .ok step)
    {start : Instant} (given : range.start? = some start) : step.range.start? = some start := by
  refine eq_of_readTime (compile_eq_ok_iff.mp compiled).1 ?_
  rw [getElem?_bound_start, given]
  rfl

/-- A last instant that is written into the options is the last instant of the step. -/
theorem stop?_of_compile_bound (compiled : compile value (bound range options) = .ok step)
    {stop : Instant} (given : range.stop? = some stop) : step.range.stop? = some stop := by
  refine eq_of_readTime (compile_eq_ok_iff.mp compiled).2.1 ?_
  rw [getElem?_bound_stop, given]
  rfl

/-- A step that compiles with the bounds of a range stays within the range. -/
theorem contains_of_compile_bound (compiled : compile value (bound range options) = .ok step)
    {instant : Instant} (inside : step.range.contains instant = true) :
    range.contains instant = true := by
  unfold TimeRange.contains at inside ⊢
  rw [Bool.and_eq_true] at inside ⊢
  constructor
  · cases given : range.start? with
    | none => rfl
    | some start =>
        rw [start?_of_compile_bound compiled given] at inside
        exact inside.1
  · cases given : range.stop? with
    | none => rfl
    | some stop =>
        rw [stop?_of_compile_bound compiled given] at inside
        exact inside.2

/-- An instant of a plain year is read where it was written, and none where none was. -/
theorem readTime_of_plain {name : String} {bound? : Option Instant}
    (given : options[name]? = bound?.map (·.timestamp))
    (plain : ∀ instant, bound? = some instant → instant.HasPlainYear) :
    readTime options name = .ok bound? := by
  rw [readTime_eq_ok_iff, given]
  cases bound? with
  | none => rfl
  | some instant => exact congrArg some (Instant.ofTimestamp?_timestamp (plain instant rfl))

/-- Bounds in plain years are read back from their texts, so a step that has no others gets them. -/
theorem compile_bound_empty {search : Search} (plain : range.HasPlainYears)
    (read : Search.read value = .ok search) :
    compile value (bound range ∅) = .ok { search, range } := by
  refine compile_eq_ok_iff.mpr ⟨readTime_of_plain ?_ plain.start, readTime_of_plain ?_ plain.stop,
    read⟩
  · rw [getElem?_bound_start, Std.ExtTreeMap.getElem?_empty, Option.or_none]
  · rw [getElem?_bound_stop, Std.ExtTreeMap.getElem?_empty, Option.or_none]

/-- Options other than the two bounds have no effect. -/
theorem compile_congr {options' : Fields}
    (start_eq : options[startOption]? = options'[startOption]?)
    (stop_eq : options[stopOption]? = options'[stopOption]?) :
    compile value options = compile value options' := by
  unfold compile readTime
  rw [start_eq, stop_eq]

theorem compile_bound_insert {key : String} (text : String) (notStart : key ≠ startOption)
    (notStop : key ≠ stopOption) :
    compile value (bound range (options.insert key text)) =
      compile value (bound range options) := by
  have unread {name : String} (different : key ≠ name) :
      (options.insert key text)[name]? = options[name]? :=
    Std.ExtTreeMap.getElem?_insert.trans (if_neg (by simpa using different))
  refine compile_congr ?_ ?_
  · rw [getElem?_bound_start, getElem?_bound_start, unread notStart]
  · rw [getElem?_bound_stop, getElem?_bound_stop, unread notStop]

end Pipeline.SearchStep

end LogQuery
