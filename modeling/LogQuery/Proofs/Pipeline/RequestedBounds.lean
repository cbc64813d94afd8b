import LogQuery.Proofs.Job.TimeWindow
import LogQuery.Proofs.Pipeline.Superseding

/-!
# Requested bounds

The bounds that come with a query reach its search as texts.  A text of a year from 0 to 9999 is
read back as the same instant to the nanosecond.  Any other year is written with a sign, which
timestamps that are read must not have, and a bound in such a year keeps the query from compiling.
-/

namespace LogQuery.Pipeline

open LogQuery.Query LogQuery.Time

/-- A bound of the range in a year that is not plain, and what the search step says of it. -/
inductive RefusedBound (range : TimeRange) : StepFault → Prop where
  | start {instant : Instant} (given : range.start? = some instant)
      (signed : ¬instant.HasPlainYear) :
      RefusedBound range (.invalidTime SearchStep.startOption instant.timestamp)
  | stop {instant : Instant} (given : range.stop? = some instant)
      (signed : ¬instant.HasPlainYear) :
      RefusedBound range (.invalidTime SearchStep.stopOption instant.timestamp)

/-- The search for a text takes up the bounds: it is the first stage and has no options, or it is
put in front because no stage begins a pipeline. -/
inductive TakesBounds : List Stage → String → Prop where
  | first {value : String} {others : List Stage} : TakesBounds (.search value :: others) value
  | inserted {stages : List Stage} (noneBegins : ∀ stage ∈ stages, ¬stage.Begins) :
      TakesBounds stages ""

namespace SearchStep

variable {value : String} {range : TimeRange}

theorem readTime_of_signed {options : Fields} {name : String} {instant : Instant}
    (given : options[name]? = some instant.timestamp) (signed : ¬instant.HasPlainYear) :
    readTime options name = .error (.step (.invalidTime name instant.timestamp)) := by
  unfold readTime
  rw [given]
  dsimp only
  rw [Instant.ofTimestamp?_timestamp_eq_none signed]

/-- The first of the bounds that cannot be read back is reported. -/
theorem exists_refusedBound_of_not_plain (notPlain : ¬range.HasPlainYears) :
    ∃ fault, RefusedBound range fault ∧
      compile value (bound range ∅) = .error (.step fault) := by
  have givenStart : (bound range ∅)[startOption]? = range.start?.map (·.timestamp) := by
    rw [getElem?_bound_start, Std.ExtTreeMap.getElem?_empty, Option.or_none]
  have givenStop : (bound range ∅)[stopOption]? = range.stop?.map (·.timestamp) := by
    rw [getElem?_bound_stop, Std.ExtTreeMap.getElem?_empty, Option.or_none]
  by_cases plainStart : ∀ instant, range.start? = some instant → instant.HasPlainYear
  · have signedStop : ¬∀ instant, range.stop? = some instant → instant.HasPlainYear :=
      fun plainStop => notPlain ⟨plainStart, plainStop⟩
    push Not at signedStop
    obtain ⟨instant, given, signed⟩ := signedStop
    refine ⟨_, .stop given signed, ?_⟩
    rw [given] at givenStop
    unfold compile
    rw [readTime_of_plain givenStart plainStart, readTime_of_signed givenStop signed]
    rfl
  · push Not at plainStart
    obtain ⟨instant, given, signed⟩ := plainStart
    refine ⟨_, .start given signed, ?_⟩
    rw [given] at givenStart
    unfold compile
    rw [readTime_of_signed givenStart signed]
    rfl

end SearchStep

/-! ## The search of a query -/

/-- Leave out what is superseded, and assign types to what is left. -/
def assemble (steps : List Step) : Except CompileError Pipeline := do
  let types ← resolve .nothing beforeFirst (fromLastGenerator steps)
  .ok ⟨fromLastGenerator steps, types⟩

variable {query value : String} {stages : List Stage} {unbounded : Pipeline}

theorem compile_of_read {registry : StepRegistry} (read : readPipeline query = .ok stages)
    (range : TimeRange) :
    compile registry query range = (do
      let compiled ← (boundFirst range stages).mapM registry.compileStage
      let steps ← registry.withGenerator range compiled
      assemble steps) := by
  unfold compile
  rw [read]
  rfl

theorem boundFirst_of_noneBegins (noneBegins : ∀ stage ∈ stages, ¬stage.Begins)
    (range : TimeRange) : boundFirst range stages = stages := by
  cases stages with
  | nil => rfl
  | cons first others =>
      have notSearch : first.name ≠ searchName := fun named =>
        noneBegins first List.mem_cons_self (.inl named)
      rw [boundFirst_cons, if_neg notSearch]

/-- A query that compiles without bounds compiles its search anew for bounds, and nothing else. -/
theorem exists_compile_eq_assemble (compiled : compile .builtin query {} = .ok unbounded)
    (read : readPipeline query = .ok stages) (takes : TakesBounds stages value) :
    ∃ behind, (behind.any Step.isGenerator = true ↔ BeginsAnew stages) ∧
      ∀ range, compile .builtin query range = (do
        let search ← SearchStep.compile value (SearchStep.bound range ∅)
        assemble (.search search :: behind)) := by
  obtain ⟨stages', made, steps, types, read', compiles, -, -, -⟩ := compile_eq_ok_iff.mp compiled
  obtain rfl := Except.ok.inj (read.symm.trans read')
  rw [boundFirst_unbounded] at compiles
  cases takes with
  | @first _ others =>
      obtain ⟨step, behind, -, othersCompile, rfl⟩ := List.forall₂_cons_left_iff.mp compiles
      refine ⟨behind, any_isGenerator_iff othersCompile, fun range => ?_⟩
      let bounded : Stage := { name := searchName, options := SearchStep.bound range ∅, value }
      have headCompiles := StepRegistry.compileStage_builtin_search bounded rfl
      have bounds_first : boundFirst range (.search value :: others) = bounded :: others := by
        rw [boundFirst_cons]
        exact congrArg (· :: others) (if_pos rfl)
      rw [compile_of_read read, bounds_first, List.mapM_cons, headCompiles,
        mapM_eq_ok_iff.mpr othersCompile]
      cases SearchStep.compile value (SearchStep.bound range ∅) with
      | error error => rfl
      | ok search => rfl
  | inserted noneBegins =>
      have noGenerator : made.any Step.isGenerator = false := by
        rw [Bool.eq_false_iff]
        intro generates
        obtain ⟨stage, member, begins⟩ := (any_isGenerator_iff compiles).mp generates
        exact noneBegins stage member begins
      have notAnew : ¬BeginsAnew stages := by
        rintro ⟨stage, later, begins⟩
        exact noneBegins stage (List.mem_of_mem_tail later) begins
      refine ⟨made, by simp [noGenerator, notAnew], fun range => ?_⟩
      rw [compile_of_read read, boundFirst_of_noneBegins noneBegins,
        mapM_eq_ok_iff.mpr compiles]
      change StepRegistry.builtin.withGenerator range made >>= assemble = _
      rw [StepRegistry.withGenerator, if_neg (by simp [noGenerator]),
        StepRegistry.compileSearch_builtin]
      cases SearchStep.compile "" (SearchStep.bound range ∅) with
      | error error => rfl
      | ok search => rfl

/-- The time range of a search does not show in the types. -/
theorem exists_assemble_eq_ok {search : SearchStep} {behind : List Step}
    (assembled : assemble (.search search :: behind) = .ok unbounded) (range : TimeRange) :
    ∃ bounded, assemble (.search { search with range } :: behind) = .ok bounded ∧
      bounded.types = unbounded.types ∧
      (behind.any Step.isGenerator = true → bounded.steps = unbounded.steps) ∧
      (¬behind.any Step.isGenerator = true →
        unbounded.steps = .search search :: behind ∧
          bounded.steps = .search { search with range } :: behind) := by
  obtain ⟨types, resolved, made⟩ := bind_eq_ok.mp assembled
  obtain rfl := Except.ok.inj made
  by_cases anew : behind.any Step.isGenerator = true
  · have dropped (search : SearchStep) :
        fromLastGenerator (.search search :: behind) = fromLastGenerator behind := if_pos anew
    refine ⟨⟨fromLastGenerator behind, types⟩, ?_, rfl, fun _ => (dropped search).symm,
      fun notAnew => absurd anew notAnew⟩
    rw [dropped] at resolved
    exact bind_eq_ok.mpr ⟨types, by rw [dropped]; exact resolved, by rw [dropped]⟩
  · have kept (search : SearchStep) :
        fromLastGenerator (.search search :: behind) = .search search :: behind := if_neg anew
    refine ⟨⟨.search { search with range } :: behind, types⟩, ?_, rfl,
      fun isAnew => absurd isAnew anew, fun _ => ⟨kept search, rfl⟩⟩
    rw [kept] at resolved
    exact bind_eq_ok.mpr ⟨types, by rw [kept]; exact resolved, by rw [kept]⟩

/-- Ask for bounds of a query that compiles without any and whose search takes them up.  If their
years are plain, the query compiles to the same steps and types, and unless a later stage begins the
pipeline anew its search has exactly these bounds.  Otherwise it does not compile any more, and the
error blames an option that the query does not have.  The difference is made by the texts of the
bounds: only those of plain years are read back, and then as the instants that were written. -/
theorem bounds_are_kept_exactly_in_plain_years
    (compiled : compile .builtin query {} = .ok unbounded)
    (read : readPipeline query = .ok stages) (takes : TakesBounds stages value)
    (range : TimeRange) :
    (range.HasPlainYears →
      ∃ bounded, compile .builtin query range = .ok bounded ∧ bounded.types = unbounded.types ∧
        (BeginsAnew stages → bounded.steps = unbounded.steps) ∧
        (¬BeginsAnew stages → ∃ search rest, Search.read value = .ok search ∧
          unbounded.steps = .search ⟨search, {}⟩ :: rest ∧
          bounded.steps = .search ⟨search, range⟩ :: rest)) ∧
    (¬range.HasPlainYears →
      ∃ fault, RefusedBound range fault ∧ compile .builtin query range = .error (.step fault)) ∧
    ∀ instant : Instant,
      Instant.ofTimestamp? instant.timestamp = some instant ↔ instant.HasPlainYear := by
  obtain ⟨behind, anew_iff, compile_eq⟩ := exists_compile_eq_assemble compiled read takes
  refine ⟨?_, ?_, ?_⟩
  · intro plain
    rw [compile_eq] at compiled
    obtain ⟨step, stepCompiled, assembled⟩ := bind_eq_ok.mp compiled
    have readValue := (SearchStep.compile_eq_ok_iff.mp stepCompiled).2.2
    have unboundedPlain : TimeRange.HasPlainYears {} := ⟨by simp, by simp⟩
    have step_eq := Except.ok.inj
      (stepCompiled.symm.trans (SearchStep.compile_bound_empty unboundedPlain readValue))
    generalize step.search = search at readValue step_eq
    subst step_eq
    obtain ⟨bounded, boundedAssembled, types_eq, same, different⟩ :=
      exists_assemble_eq_ok assembled range
    refine ⟨bounded, ?_, types_eq, fun anew => same (anew_iff.mpr anew), fun notAnew => ?_⟩
    · rw [compile_eq, SearchStep.compile_bound_empty plain readValue]
      exact boundedAssembled
    · obtain ⟨steps_eq, bounded_eq⟩ := different fun generates => notAnew (anew_iff.mp generates)
      exact ⟨_, behind, readValue, steps_eq, bounded_eq⟩
  · intro notPlain
    obtain ⟨fault, refused, failed⟩ : ∃ fault, RefusedBound range fault ∧
        SearchStep.compile value (SearchStep.bound range ∅) = .error (.step fault) :=
      SearchStep.exists_refusedBound_of_not_plain notPlain
    refine ⟨fault, refused, ?_⟩
    rw [compile_eq, failed]
    rfl
  · intro instant
    refine ⟨fun isRead => ?_, Instant.ofTimestamp?_timestamp⟩
    by_contra signed
    rw [Instant.ofTimestamp?_timestamp_eq_none signed] at isRead
    cases isRead

/-- The last nanosecond of the year 9999 is a bound as any other. -/
theorem last_plain_instant_is_kept :
    let range : TimeRange := { stop? := some { second := 253402300799, nano := 999999999 } }
    range.HasPlainYears ∧ ∃ bounded search rest, compile .builtin "a" range = .ok bounded ∧
      Search.read "a" = .ok search ∧ bounded.steps = .search ⟨search, range⟩ :: rest := by
  intro range
  have plain : range.HasPlainYears := by
    refine ⟨by simp [range], fun instant given => ?_⟩
    obtain rfl := Option.some.inj given
    exact ⟨by decide, by decide⟩
  obtain ⟨unbounded, compiled⟩ : ∃ unbounded, compile .builtin "a" {} = .ok unbounded :=
    ⟨_, by cbv⟩
  have read : readPipeline "a" = .ok [.search "a"] := by cbv
  have once : ¬BeginsAnew [.search "a"] := by
    rintro ⟨_, later, -⟩
    exact List.not_mem_nil later
  obtain ⟨bounded, boundedCompiled, -, -, kept⟩ :=
    (bounds_are_kept_exactly_in_plain_years compiled read .first range).1 plain
  obtain ⟨search, rest, searchRead, -, steps_eq⟩ := kept once
  exact ⟨plain, bounded, search, rest, boundedCompiled, searchRead, steps_eq⟩

/-- One nanosecond later the query for everything does not compile, although it does without the
bound. -/
theorem first_instant_of_a_signed_year_is_refused :
    let range : TimeRange := { stop? := some { second := 253402300800, nano := 0 } }
    (compile .builtin "" {}).map (·.steps.map Step.name) = .ok [searchName] ∧
      (compile .builtin "" range).map (·.steps.map Step.name) =
        .error (.step (.invalidTime "endTime" "+10000-01-01T00:00:00Z")) := by
  cbv

end LogQuery.Pipeline
