import LogQuery.Proofs.Job.Provenance
import LogQuery.Proofs.Pipeline.SearchBounds

/-!
# The requested time window

The bounds that come with a query are written into its first stage, if that is a search, or into the
search that is put in front of a query in which no stage begins a pipeline.  They therefore hold for
all results unless a later stage begins the pipeline anew; in that case they are without effect, and
only what that stage says about time counts.
-/

namespace LogQuery

open LogQuery.Config LogQuery.Query LogQuery.Time

/-- The stage names a builtin step that begins a pipeline. -/
def Query.Stage.Begins (stage : Stage) : Prop :=
  stage.name = searchName ∨ stage.name = Pipeline.SurroundingStep.stepName

namespace Pipeline

/-- A stage behind the first one begins a pipeline. -/
def BeginsAnew (stages : List Stage) : Prop :=
  ∃ stage ∈ stages.tail, stage.Begins

theorem CompilesTo.isGenerator_iff {stage : Stage} {step : Step}
    (compiles : CompilesTo stage step) : step.isGenerator = true ↔ stage.Begins := by
  unfold Stage.Begins
  cases compiles with
  | search name_eq _ => exact iff_of_true rfl (.inl name_eq)
  | surrounding name_eq _ => exact iff_of_true rfl (.inr name_eq)
  | rex name_eq _ =>
      rw [name_eq]
      exact iff_of_false Bool.false_ne_true (by decide)
  | filter name_eq _ =>
      rw [name_eq]
      exact iff_of_false Bool.false_ne_true (by decide)
  | table name_eq _ =>
      rw [name_eq]
      exact iff_of_false Bool.false_ne_true (by decide)

theorem any_isGenerator_iff {stages : List Stage} {made : List Step}
    (compiles : List.Forall₂ (fun stage step => StepRegistry.builtin.compileStage stage = .ok step)
      stages made) : made.any Step.isGenerator = true ↔ ∃ stage ∈ stages, stage.Begins := by
  induction compiles with
  | nil => simp
  | cons compiles _ inductionHypothesis =>
      rw [List.any_cons, Bool.or_eq_true, inductionHypothesis,
        (StepRegistry.compileStage_builtin_iff.mp compiles).isGenerator_iff]
      simp only [List.mem_cons, exists_eq_or_imp]

theorem boundFirst_cons (range : TimeRange) (first : Stage) (others : List Stage) :
    boundFirst range (first :: others) =
      (if first.name = searchName then
        { first with options := SearchStep.bound range first.options } else first) :: others := by
  rw [boundFirst]
  split
  · rfl
  · rfl

variable {query : String} {range : TimeRange} {pipeline : Pipeline} {stages : List Stage}

/-- If a later stage begins the pipeline anew, nothing of the first one is left. -/
theorem exists_made_of_beginsAnew (compiled : compile .builtin query range = .ok pipeline)
    (read : readPipeline query = .ok stages) (anew : BeginsAnew stages) :
    ∃ made, stages.tail.mapM StepRegistry.builtin.compileStage = .ok made ∧
      pipeline.steps = fromLastGenerator made ∧
      resolve .nothing beforeFirst (fromLastGenerator made) = .ok pipeline.types := by
  obtain ⟨stages', made, steps, types, read', compiles, generated, resolved, rfl⟩ :=
    compile_eq_ok_iff.mp compiled
  obtain rfl := Except.ok.inj (read.symm.trans read')
  cases stages with
  | nil =>
      obtain ⟨_, member, _⟩ := anew
      cases member
  | cons first others =>
      rw [boundFirst_cons] at compiles
      obtain ⟨step, behind, -, othersCompile, rfl⟩ := List.forall₂_cons_left_iff.mp compiles
      have later := (any_isGenerator_iff othersCompile).mpr anew
      have dropped : fromLastGenerator (step :: behind) = fromLastGenerator behind := if_pos later
      rcases withGenerator_builtin_eq_ok_iff.mp generated with ⟨-, rfl⟩ | ⟨none, -⟩
      · rw [dropped] at resolved
        exact ⟨behind, mapM_eq_ok_iff.mpr othersCompile, dropped, by rwa [dropped]⟩
      · rw [List.any_cons, later, Bool.or_true] at none
        cases none

/-- The requested bounds are without effect if a later stage begins the pipeline anew. -/
theorem eq_of_beginsAnew {other : TimeRange} {changed : Pipeline}
    (compiled : compile .builtin query range = .ok pipeline)
    (compiled' : compile .builtin query other = .ok changed)
    (read : readPipeline query = .ok stages) (anew : BeginsAnew stages) : changed = pipeline := by
  obtain ⟨made, made_eq, steps_eq, resolved⟩ := exists_made_of_beginsAnew compiled read anew
  obtain ⟨made', made_eq', steps_eq', resolved'⟩ := exists_made_of_beginsAnew compiled' read anew
  obtain rfl := Except.ok.inj (made_eq.symm.trans made_eq')
  have types_eq := Except.ok.inj (resolved'.symm.trans resolved)
  cases changed
  cases pipeline
  dsimp only at *
  rw [steps_eq, steps_eq', types_eq]

variable {step : SearchStep} {rest : List Step}

/-- The search that begins the pipeline anew is compiled as it is written. -/
theorem exists_stage_of_beginsAnew (compiled : compile .builtin query range = .ok pipeline)
    (read : readPipeline query = .ok stages) (anew : BeginsAnew stages)
    (steps_eq : pipeline.steps = .search step :: rest) :
    ∃ stage ∈ stages.tail, stage.name = searchName ∧
      SearchStep.compile stage.value stage.options = .ok step := by
  obtain ⟨made, made_eq, left, -⟩ := exists_made_of_beginsAnew compiled read anew
  have generates := (any_isGenerator_iff (mapM_eq_ok_iff.mp made_eq)).mpr anew
  obtain ⟨before, first, behind, rfl, -, -, left'⟩ := exists_fromLastGenerator_eq generates
  rw [left, left'] at steps_eq
  obtain ⟨rfl, -⟩ := List.cons.inj steps_eq
  obtain ⟨stage, member, compiles⟩ := exists_mem_of_mapM_eq_ok made_eq
    (List.mem_append_right before List.mem_cons_self)
  refine ⟨stage, member, ?_⟩
  cases StepRegistry.compileStage_builtin_iff.mp compiles with
  | search name_eq compiled => exact ⟨name_eq, compiled⟩

/-- Otherwise the search that begins the pipeline is compiled with the bounds of the range. -/
theorem exists_compile_bound_of_not_beginsAnew
    (compiled : compile .builtin query range = .ok pipeline)
    (read : readPipeline query = .ok stages) (once : ¬BeginsAnew stages)
    (steps_eq : pipeline.steps = .search step :: rest) :
    ∃ value options, SearchStep.compile value (SearchStep.bound range options) = .ok step := by
  obtain ⟨stages', made, steps, types, read', compiles, generated, -, rfl⟩ :=
    compile_eq_ok_iff.mp compiled
  obtain rfl := Except.ok.inj (read.symm.trans read')
  rcases withGenerator_builtin_eq_ok_iff.mp generated with
    ⟨generates, rfl⟩ | ⟨none, search, searchCompiled, rfl⟩
  · cases stages with
    | nil =>
        cases compiles
        cases generates
    | cons first others =>
        rw [boundFirst_cons] at compiles
        obtain ⟨head, behind, headCompiles, othersCompile, rfl⟩ :=
          List.forall₂_cons_left_iff.mp compiles
        have notLater : ¬behind.any Step.isGenerator = true :=
          fun later => once ((any_isGenerator_iff othersCompile).mp later)
        have kept : fromLastGenerator (head :: behind) = head :: behind := if_neg notLater
        obtain ⟨rfl, -⟩ := List.cons.inj (kept.symm.trans steps_eq)
        cases StepRegistry.compileStage_builtin_iff.mp headCompiles with
        | search name_eq compiled =>
            split at compiled
            · exact ⟨_, _, compiled⟩
            · next notSearch =>
                rw [if_neg notSearch] at name_eq
                exact absurd name_eq notSearch
  · have kept : fromLastGenerator (.search search :: made) = .search search :: made :=
      if_neg (by simp [none])
    obtain ⟨same, -⟩ := List.cons.inj (kept.symm.trans steps_eq)
    obtain rfl := Step.search.inj same
    exact ⟨"", ∅, searchCompiled⟩

/-- A search step keeps to its own range. -/
theorem contains_of_mem_events_emit {sources : Sources} {received : Option Nat}
    {event : ExtractedEvent} (emitted : event ∈ (step.emit sources received).events) :
    step.range.contains event.timestamp = true := by
  have read := (Step.map_toEvent_events_emit_sublist (.search step) sources received).subset
    (List.mem_map_of_mem emitted)
  exact ((sources.events.mem_candidates).mp read).2.1

theorem contains_of_mem_events_run (steps_eq : pipeline.steps = .search step :: rest)
    {sources : Sources} {cancelled : Bool} {event : ExtractedEvent}
    (emitted : event ∈ (pipeline.run sources cancelled).events) :
    step.range.contains event.timestamp = true := by
  have read := (map_toEvent_events_run_sublist steps_eq sources cancelled).subset
    (List.mem_map_of_mem emitted)
  exact ((sources.events.mem_candidates).mp read).2.1

/-- What becomes of the bounds that come with a query whose pipeline begins with a search.  If no
stage behind the first one begins the pipeline anew, the search reads, the pipeline emits and a job
stores only events within the bounds.  Otherwise the bounds make no difference, and the search that
is left keeps to the bounds among its own options. -/
theorem search_keeps_the_window_of_its_query
    (compiled : compile .builtin query range = .ok pipeline)
    (read : readPipeline query = .ok stages) (steps_eq : pipeline.steps = .search step :: rest) :
    (¬BeginsAnew stages →
      (∀ sources received, ∀ event ∈ (step.emit sources received).events,
          range.contains event.timestamp = true) ∧
        (∀ sources cancelled, ∀ event ∈ (pipeline.run sources cancelled).events,
          range.contains event.timestamp = true) ∧
        ∀ (engine settled : JobEngine) (id : Int) (refs : List EventRef),
          engine.start query range = (.ok id, settled) →
            settled.jobs.store.results id 0 none = .ok refs →
              ∀ ref ∈ refs, range.contains ref.timestamp = true) ∧
      (BeginsAnew stages →
        (∀ other changed, compile .builtin query other = .ok changed → changed = pipeline) ∧
          (∃ stage ∈ stages.tail, stage.name = searchName ∧
            SearchStep.compile stage.value stage.options = .ok step) ∧
          ∀ sources cancelled, ∀ event ∈ (pipeline.run sources cancelled).events,
            step.range.contains event.timestamp = true) := by
  constructor
  · intro once
    obtain ⟨value, options, bounded⟩ :=
      exists_compile_bound_of_not_beginsAnew compiled read once steps_eq
    refine ⟨?_, ?_, ?_⟩
    · intro sources received event emitted
      exact SearchStep.contains_of_compile_bound bounded (contains_of_mem_events_emit emitted)
    · intro sources cancelled event emitted
      exact SearchStep.contains_of_compile_bound bounded
        (contains_of_mem_events_run steps_eq emitted)
    · intro engine settled id refs started shown ref member
      obtain ⟨pipeline', compiled', stored⟩ := JobEngine.exists_event_of_mem_results started shown
      obtain rfl := Except.ok.inj (compiled.symm.trans compiled')
      obtain ⟨event, emitted, rfl⟩ := stored ref member
      exact SearchStep.contains_of_compile_bound bounded
        (contains_of_mem_events_run steps_eq emitted)
  · intro anew
    refine ⟨?_, exists_stage_of_beginsAnew compiled read anew steps_eq, ?_⟩
    · intro other changed compiled'
      exact eq_of_beginsAnew compiled compiled' read anew
    · intro sources cancelled event emitted
      exact contains_of_mem_events_run steps_eq emitted

/-- A single search keeps the window of its query. -/
theorem single_search_keeps_the_window :
    let range : TimeRange := { start? := some (.ofMillis 1704067200000) }
    ∃ pipeline, compile .builtin "a" range = .ok pipeline ∧
      ∀ sources cancelled, ∀ event ∈ (pipeline.run sources cancelled).events,
        range.contains event.timestamp = true := by
  intro range
  have evaluated : (compile .builtin "a" range).map (·.steps.map Step.name) =
      .ok [searchName] := by
    cbv
  obtain ⟨pipeline, compiled, names_eq⟩ := map_eq_ok_iff.mp evaluated
  have read : readPipeline "a" = .ok [.search "a"] := by cbv
  have once : ¬BeginsAnew [.search "a"] := by
    rintro ⟨stage, member, -⟩
    cases member
  obtain ⟨first, rest, steps_eq, begins, -⟩ := exists_steps_of_compile compiled
  cases begins with
  | search step =>
      have window := (search_keeps_the_window_of_its_query compiled read steps_eq).1 once
      exact ⟨pipeline, compiled, window.2.1⟩
  | surrounding step =>
      rw [steps_eq] at names_eq
      have same : SurroundingStep.stepName = searchName := (List.cons.inj names_eq).1
      exact absurd same (by decide)

/-- A second search has only the bounds that it names itself: an event is found although it lies
before the first instant that is asked for. -/
theorem second_search_leaves_the_window :
    let range : TimeRange := { start? := some (.ofMillis 1704067200000) }
    let type : FileType :=
      { name := defaultTypeName, timeLayout := "", parser := .json defaultDelimiter "_time" }
    let sources : Sources :=
      { events := { added := [⟨"", .epoch, "h", "s"⟩] }
        configs := .constant
          { files := [{ fileName := "s" }], fileTypes := .ofList [(type.name, type)] } }
    ∃ pipeline, compile .builtin "a | search endTime=1970-01-01T00:00:00Z" range = .ok pipeline ∧
      pipeline.steps.map Step.name = [searchName] ∧
      ∃ event ∈ (pipeline.run sources false).events, range.contains event.timestamp = false := by
  intro range type sources
  have evaluated : (compile .builtin "a | search endTime=1970-01-01T00:00:00Z" range).map
      (fun pipeline => (pipeline.steps.map Step.name,
        (pipeline.run sources false).events.map (·.timestamp))) =
      .ok ([searchName], [.epoch]) := by
    cbv
  obtain ⟨pipeline, compiled, found⟩ := map_eq_ok_iff.mp evaluated
  obtain ⟨names_eq, times_eq⟩ := Prod.mk.inj found
  obtain ⟨event, others, events_eq, time_eq, -⟩ := List.map_eq_cons_iff.mp times_eq
  refine ⟨pipeline, compiled, names_eq, event, ?_, ?_⟩
  · rw [events_eq]
    exact List.mem_cons_self
  · rw [time_eq]
    cbv

end Pipeline

end LogQuery
