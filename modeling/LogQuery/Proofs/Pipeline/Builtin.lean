import LogQuery.Pipeline.Compile
import LogQuery.Proofs.Outcome

/-!
# Pipelines of builtin steps

A query compiles to one step for each stage.  What is left of them begins with the last step that
begins a pipeline, and every step behind it receives the batches that are sent to it.
-/

namespace LogQuery

open LogQuery.Query

namespace Pipeline

/-- A step that a stage compiles to under the builtin names. -/
inductive CompilesTo (stage : Stage) : Step → Prop where
  | search {step : SearchStep} (name_eq : stage.name = searchName)
      (compiled : SearchStep.compile stage.value stage.options = .ok step) :
      CompilesTo stage (.search step)
  | rex {step : RexStep} (name_eq : stage.name = RexStep.stepName)
      (compiled : RexStep.compile stage.value stage.options = .ok step) :
      CompilesTo stage (.rex step)
  | filter {step : WhereStep} (name_eq : stage.name = WhereStep.stepName)
      (compiled : WhereStep.compile stage.value stage.options = .ok step) :
      CompilesTo stage (.filter step)
  | table {step : TableStep} (name_eq : stage.name = TableStep.stepName)
      (compiled : TableStep.compile stage.value = .ok step) :
      CompilesTo stage (.table step)
  | surrounding {step : SurroundingStep} (name_eq : stage.name = SurroundingStep.stepName)
      (compiled : SurroundingStep.compile stage.value stage.options = .ok step) :
      CompilesTo stage (.surrounding step)

namespace StepRegistry

theorem get?_builtin (name : String) :
    builtin.get? name =
      if SurroundingStep.stepName = name then some StepCompiler.surrounding
      else if TableStep.stepName = name then some StepCompiler.table
      else if WhereStep.stepName = name then some StepCompiler.filter
      else if RexStep.stepName = name then some StepCompiler.rex
      else if searchName = name then some StepCompiler.search
      else none := by
  unfold get? builtin
  simp only [Std.ExtTreeMap.ofList_eq_insertMany_empty, Std.ExtTreeMap.insertMany_cons,
    Std.ExtTreeMap.insertMany_nil, Std.ExtTreeMap.getElem?_insert,
    Std.compare_eq_iff_eq, Std.ExtTreeMap.getElem?_empty]

/-- The builtin names and what they stand for. -/
theorem get?_builtin_eq_some_iff {name : String} {compiler : StepCompiler} :
    builtin.get? name = some compiler ↔
      name = searchName ∧ compiler = .search ∨ name = RexStep.stepName ∧ compiler = .rex ∨
        name = WhereStep.stepName ∧ compiler = .filter ∨
          name = TableStep.stepName ∧ compiler = .table ∨
            name = SurroundingStep.stepName ∧ compiler = .surrounding := by
  constructor
  · intro found
    rw [get?_builtin] at found
    split at found
    · next same => exact .inr (.inr (.inr (.inr ⟨same.symm, (Option.some.inj found).symm⟩)))
    split at found
    · next same => exact .inr (.inr (.inr (.inl ⟨same.symm, (Option.some.inj found).symm⟩)))
    split at found
    · next same => exact .inr (.inr (.inl ⟨same.symm, (Option.some.inj found).symm⟩))
    split at found
    · next same => exact .inr (.inl ⟨same.symm, (Option.some.inj found).symm⟩)
    split at found
    · next same => exact .inl ⟨same.symm, (Option.some.inj found).symm⟩
    · cases found
  · rintro (⟨rfl, rfl⟩ | ⟨rfl, rfl⟩ | ⟨rfl, rfl⟩ | ⟨rfl, rfl⟩ | ⟨rfl, rfl⟩)
    all_goals rw [get?_builtin]; rfl

theorem get?_builtin_search : builtin.get? searchName = some StepCompiler.search :=
  get?_builtin_eq_some_iff.mpr (.inl ⟨rfl, rfl⟩)

theorem compileStage_builtin_search (stage : Stage) (name_eq : stage.name = searchName) :
    builtin.compileStage stage =
      (SearchStep.compile stage.value stage.options).map .search := by
  rw [compileStage, name_eq, get?_builtin_search]
  rfl

theorem compileSearch_builtin (range : TimeRange) :
    builtin.compileSearch range =
      (SearchStep.compile "" (SearchStep.bound range ∅)).map .search := by
  rw [compileSearch, get?_builtin_search]
  rfl

theorem compileStage_eq_ok_iff {registry : StepRegistry} {stage : Stage} {step : Step} :
    registry.compileStage stage = .ok step ↔
      ∃ compiler, registry.get? stage.name = some compiler ∧
        compiler stage.value stage.options = .ok step := by
  unfold compileStage
  cases registry.get? stage.name with
  | none => simp
  | some compiler => simp

theorem compileStage_builtin_iff {stage : Stage} {step : Step} :
    builtin.compileStage stage = .ok step ↔ CompilesTo stage step := by
  rw [compileStage_eq_ok_iff]
  constructor
  · rintro ⟨compiler, found, succeeds⟩
    rcases get?_builtin_eq_some_iff.mp found with ⟨name_eq, rfl⟩ | ⟨name_eq, rfl⟩ |
      ⟨name_eq, rfl⟩ | ⟨name_eq, rfl⟩ | ⟨name_eq, rfl⟩
    · obtain ⟨made, compiled, rfl⟩ := map_eq_ok_iff.mp succeeds
      exact .search name_eq compiled
    · obtain ⟨made, compiled, rfl⟩ := map_eq_ok_iff.mp (mapError_eq_ok_iff.mp succeeds)
      exact .rex name_eq compiled
    · obtain ⟨made, compiled, rfl⟩ := map_eq_ok_iff.mp (mapError_eq_ok_iff.mp succeeds)
      exact .filter name_eq compiled
    · obtain ⟨made, compiled, rfl⟩ := map_eq_ok_iff.mp (mapError_eq_ok_iff.mp succeeds)
      exact .table name_eq compiled
    · obtain ⟨made, compiled, rfl⟩ := map_eq_ok_iff.mp (mapError_eq_ok_iff.mp succeeds)
      exact .surrounding name_eq compiled
  · intro compiles
    simp only [get?_builtin_eq_some_iff]
    cases compiles with
    | search name_eq compiled =>
        exact ⟨_, .inl ⟨name_eq, rfl⟩, map_eq_ok_iff.mpr ⟨_, compiled, rfl⟩⟩
    | rex name_eq compiled =>
        exact ⟨_, .inr (.inl ⟨name_eq, rfl⟩),
          mapError_eq_ok_iff.mpr (map_eq_ok_iff.mpr ⟨_, compiled, rfl⟩)⟩
    | filter name_eq compiled =>
        exact ⟨_, .inr (.inr (.inl ⟨name_eq, rfl⟩)),
          mapError_eq_ok_iff.mpr (map_eq_ok_iff.mpr ⟨_, compiled, rfl⟩)⟩
    | table name_eq compiled =>
        exact ⟨_, .inr (.inr (.inr (.inl ⟨name_eq, rfl⟩))),
          mapError_eq_ok_iff.mpr (map_eq_ok_iff.mpr ⟨_, compiled, rfl⟩)⟩
    | surrounding name_eq compiled =>
        exact ⟨_, .inr (.inr (.inr (.inr ⟨name_eq, rfl⟩))),
          mapError_eq_ok_iff.mpr (map_eq_ok_iff.mpr ⟨_, compiled, rfl⟩)⟩

end StepRegistry

namespace Step

/-- The builtin steps that begin a pipeline. -/
inductive Begins : Step → Prop where
  | search (step : SearchStep) : Begins (.search step)
  | surrounding (step : SurroundingStep) : Begins (.surrounding step)

/-- The builtin steps that go on with what comes from the step before them. -/
inductive Continues : Step → Prop where
  | rex (step : RexStep) : Continues (.rex step)
  | filter (step : WhereStep) : Continues (.filter step)
  | table (step : TableStep) : Continues (.table step)

variable {step : Step}

theorem Begins.isGenerator (begins : step.Begins) : step.isGenerator = true := by
  cases begins with
  | search step => rfl
  | surrounding step => rfl

theorem Continues.isGenerator (continues : step.Continues) : step.isGenerator = false := by
  cases continues with
  | rex step => rfl
  | filter step => rfl
  | table step => rfl

theorem Continues.receives (continues : step.Continues) : step.receives = true := by
  cases continues with
  | rex step => rfl
  | filter step => rfl
  | table step => rfl

theorem Continues.sortMode (continues : step.Continues) : step.declaration.sortMode = none := by
  cases continues with
  | rex step => rfl
  | filter step => rfl
  | table step => rfl

end Step

theorem CompilesTo.begins_or_continues {stage : Stage} {step : Step}
    (compiles : CompilesTo stage step) : step.Begins ∨ step.Continues := by
  cases compiles with
  | search _ _ => exact .inl (.search _)
  | rex _ _ => exact .inr (.rex _)
  | filter _ _ => exact .inr (.filter _)
  | table _ _ => exact .inr (.table _)
  | surrounding _ _ => exact .inl (.surrounding _)

/-- If some step begins a pipeline, the last such step and those behind it are left. -/
theorem exists_fromLastGenerator_eq {steps : List Step}
    (generates : steps.any Step.isGenerator = true) :
    ∃ before first rest, steps = before ++ first :: rest ∧ first.isGenerator = true ∧
      (∀ step ∈ rest, step.isGenerator = false) ∧ fromLastGenerator steps = first :: rest := by
  induction steps with
  | nil => cases generates
  | cons step steps inductionHypothesis =>
      unfold fromLastGenerator
      cases later : steps.any Step.isGenerator with
      | true =>
          obtain ⟨before, first, rest, rfl, begins, goOn, left⟩ := inductionHypothesis later
          exact ⟨step :: before, first, rest, rfl, begins, goOn, left⟩
      | false =>
          rw [List.any_cons, later, Bool.or_false] at generates
          rw [List.any_eq_false] at later
          exact ⟨[], step, steps, rfl, generates, fun step member =>
            Bool.eq_false_iff.mpr (later step member), rfl⟩

variable {query : String} {range : TimeRange} {pipeline : Pipeline}

/-- What a query goes through until it is compiled. -/
theorem compile_eq_ok_iff {registry : StepRegistry} :
    compile registry query range = .ok pipeline ↔
      ∃ stages compiled steps types, readPipeline query = .ok stages ∧
        List.Forall₂ (fun stage step => registry.compileStage stage = .ok step)
          (boundFirst range stages) compiled ∧
        registry.withGenerator range compiled = .ok steps ∧
        resolve .nothing beforeFirst (fromLastGenerator steps) = .ok types ∧
        pipeline = ⟨fromLastGenerator steps, types⟩ := by
  unfold compile
  simp only [bind_eq_ok, mapError_eq_ok_iff, mapM_eq_ok_iff, Except.ok.injEq]
  constructor
  · rintro ⟨stages, read, compiled, compiles, steps, generated, types, resolved, rfl⟩
    exact ⟨stages, compiled, steps, types, read, compiles, generated, resolved, rfl⟩
  · rintro ⟨stages, compiled, steps, types, read, compiles, generated, resolved, rfl⟩
    exact ⟨stages, read, compiled, compiles, steps, generated, types, resolved, rfl⟩

/-- What can go wrong when a query is compiled: its text, a stage, the search that is put in front,
or the types of the steps that are left. -/
inductive FailsToCompile (registry : StepRegistry) (query : String) (range : TimeRange) :
    CompileError → Prop where
  | query {error : QueryError} (unread : readPipeline query = .error error) :
      FailsToCompile registry query range (.query error)
  | stage {stages : List Stage} {stage : Stage} {error : CompileError}
      (read : readPipeline query = .ok stages) (member : stage ∈ boundFirst range stages)
      (fails : registry.compileStage stage = .error error) :
      FailsToCompile registry query range error
  | search {error : CompileError} (fails : registry.compileSearch range = .error error) :
      FailsToCompile registry query range error
  | types {stages : List Stage} {compiled steps : List Step} {error : CompileError}
      (compiles : List.Forall₂ (fun stage step => registry.compileStage stage = .ok step)
        stages compiled) (generated : registry.withGenerator range compiled = .ok steps)
      (fails : resolve .nothing beforeFirst (fromLastGenerator steps) = .error error) :
      FailsToCompile registry query range error

theorem failsToCompile_of_compile {registry : StepRegistry} {error : CompileError}
    (fails : compile registry query range = .error error) :
    FailsToCompile registry query range error := by
  unfold compile at fails
  rcases bind_eq_error_iff.mp fails with readFails | ⟨stages, read, fails⟩
  · obtain ⟨queryError, unread, rfl⟩ := mapError_eq_error_iff.mp readFails
    exact .query unread
  rcases bind_eq_error_iff.mp fails with stageFails | ⟨compiled, compiles, fails⟩
  · obtain ⟨stage, member, stageFails⟩ := exists_mem_of_mapM_eq_error stageFails
    exact .stage (mapError_eq_ok_iff.mp read) member stageFails
  rcases bind_eq_error_iff.mp fails with searchFails | ⟨steps, generated, fails⟩
  · unfold StepRegistry.withGenerator at searchFails
    split at searchFails
    · cases searchFails
    · exact .search ((bind_eq_error_iff.mp searchFails).resolve_right (by simp))
  · exact .types (mapM_eq_ok_iff.mp compiles) generated
      ((bind_eq_error_iff.mp fails).resolve_right (by simp))

/-- The search for everything in a time range is put in front only where no step begins a
pipeline. -/
theorem withGenerator_builtin_eq_ok_iff {compiled steps : List Step} :
    StepRegistry.builtin.withGenerator range compiled = .ok steps ↔
      compiled.any Step.isGenerator = true ∧ steps = compiled ∨
        compiled.any Step.isGenerator = false ∧
          ∃ search, SearchStep.compile "" (SearchStep.bound range ∅) = .ok search ∧
            steps = .search search :: compiled := by
  unfold StepRegistry.withGenerator
  cases compiled.any Step.isGenerator with
  | true => simp [eq_comm]
  | false =>
      simp only [StepRegistry.compileSearch_builtin, bind_eq_ok, map_eq_ok_iff, Except.ok.injEq,
        Bool.false_eq_true, ↓reduceIte, false_and, true_and, false_or]
      constructor
      · rintro ⟨_, ⟨search, compiled, rfl⟩, rfl⟩
        exact ⟨search, compiled, rfl⟩
      · rintro ⟨search, compiled, rfl⟩
        exact ⟨_, ⟨search, compiled, rfl⟩, rfl⟩

/-- What is left of the steps of a query begins with a step that begins a pipeline, and goes on with
other ones. -/
theorem exists_chain_of_withGenerator {stages : List Stage} {made steps : List Step}
    (compiles : List.Forall₂ (fun stage step => StepRegistry.builtin.compileStage stage = .ok step)
      stages made) (generated : StepRegistry.builtin.withGenerator range made = .ok steps) :
    ∃ first rest, fromLastGenerator steps = first :: rest ∧ first.Begins ∧
      ∀ step ∈ rest, step.Continues := by
  have kinds (step : Step) (member : step ∈ made) : step.Begins ∨ step.Continues := by
    obtain ⟨stage, -, stageCompiles⟩ := exists_mem_of_forall₂ compiles member
    exact (StepRegistry.compileStage_builtin_iff.mp stageCompiles).begins_or_continues
  have generates : steps.any Step.isGenerator = true ∧
      ∀ step ∈ steps, step.Begins ∨ step.Continues := by
    rcases withGenerator_builtin_eq_ok_iff.mp generated with ⟨generates, rfl⟩ | ⟨-, search, -, rfl⟩
    · exact ⟨generates, kinds⟩
    · refine ⟨rfl, ?_⟩
      intro step member
      rcases List.mem_cons.mp member with rfl | member
      · exact .inl (.search search)
      · exact kinds step member
  obtain ⟨before, first, rest, rfl, begins, goOn, left⟩ :=
    exists_fromLastGenerator_eq generates.1
  refine ⟨first, rest, left, ?_, ?_⟩
  · refine (generates.2 first (by simp)).resolve_right fun continues => ?_
    rw [continues.isGenerator] at begins
    cases begins
  · intro step member
    refine (generates.2 step (by simp [member])).resolve_left fun begins => ?_
    have notBegins := goOn step member
    rw [begins.isGenerator] at notBegins
    cases notBegins

/-- A compiled query begins with a step that begins a pipeline, and goes on with other ones. -/
theorem exists_steps_of_compile (compiled : compile .builtin query range = .ok pipeline) :
    ∃ first rest, pipeline.steps = first :: rest ∧ first.Begins ∧
      ∀ step ∈ rest, step.Continues := by
  obtain ⟨stages, made, steps, types, -, compiles, generated, -, rfl⟩ :=
    compile_eq_ok_iff.mp compiled
  exact exists_chain_of_withGenerator compiles generated

/-- The type behind the last step, where `current` comes from the step before the first one. -/
def lastOutput (current : PipeType) (types : List PipeTypes) : PipeType :=
  types.getLast?.elim current (·.output)

theorem lastOutput_cons (current : PipeType) (types : PipeTypes) (others : List PipeTypes) :
    lastOutput current (types :: others) = lastOutput types.output others := by
  cases others with
  | nil => rfl
  | cons next others => rw [lastOutput, lastOutput, List.getLast?_cons_cons]; rfl

theorem lastOutput_ne_nothing_of_resolve {steps : List Step} {current : PipeType} {before : String}
    {types : List PipeTypes} (resolved : resolve current before steps = .ok types) :
    lastOutput current types ≠ .nothing := by
  induction steps generalizing current before types with
  | nil =>
      unfold resolve at resolved
      split at resolved
      · cases resolved
      · next notNothing =>
          obtain rfl := Except.ok.inj resolved
          exact notNothing
  | cons step steps inductionHypothesis =>
      unfold resolve at resolved
      split at resolved
      · obtain ⟨others, resolvedBehind, ⟨⟩⟩ := bind_eq_ok.mp resolved
        rw [lastOutput_cons]
        exact inductionHypothesis resolvedBehind
      · split at resolved
        · cases resolved
        · obtain ⟨others, resolvedBehind, ⟨⟩⟩ := bind_eq_ok.mp resolved
          rw [lastOutput_cons]
          exact inductionHypothesis resolvedBehind
      · cases resolved

theorem outputType_eq_lastOutput (pipeline : Pipeline) :
    pipeline.outputType = lastOutput .nothing pipeline.types := by
  unfold outputType lastOutput
  cases pipeline.types.getLast? with
  | none => rfl
  | some last => rfl

/-- The types of a compiled query are those that its steps resolve to. -/
theorem resolve_of_compile {registry : StepRegistry}
    (compiled : compile registry query range = .ok pipeline) :
    resolve .nothing beforeFirst pipeline.steps = .ok pipeline.types := by
  obtain ⟨_, _, steps, types, -, -, -, resolved, rfl⟩ := compile_eq_ok_iff.mp compiled
  exact resolved

/-- The last step of a compiled query gives something. -/
theorem outputType_ne_nothing {registry : StepRegistry}
    (compiled : compile registry query range = .ok pipeline) : pipeline.outputType ≠ .nothing := by
  rw [outputType_eq_lastOutput]
  exact lastOutput_ne_nothing_of_resolve (resolve_of_compile compiled)

/-- The order of the results is that of the step that begins the pipeline. -/
theorem sortMode_eq {first : Step} {rest : List Step} (steps_eq : pipeline.steps = first :: rest)
    (goOn : ∀ step ∈ rest, step.Continues) :
    pipeline.sortMode = first.declaration.sortMode.getD .newestFirst := by
  have undeclared : rest.reverse.findSome? (·.declaration.sortMode) = none :=
    List.findSome?_eq_none_iff.mpr fun step member =>
      (goOn step (List.mem_reverse.mp member)).sortMode
  rw [sortMode, steps_eq, List.reverse_cons, List.findSome?_append, undeclared]
  simp

end Pipeline

end LogQuery
