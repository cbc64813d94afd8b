import LogQuery.Proofs.Pipeline.Typing
import LogQuery.Proofs.Query.Stage.Joining

/-!
# Superseded steps

A step that begins a pipeline supersedes all steps in front of it.  They have to compile, but they
are dropped before types are assigned, so not even their types have to fit together: the query
compiles to the same pipeline, or fails in the same way, as if it began with that step.
-/

namespace LogQuery

open LogQuery.Query

namespace Pipeline

/-- Steps in front of some that begin a pipeline are dropped. -/
theorem fromLastGenerator_append {earlier later : List Step}
    (begun : later.any Step.isGenerator = true) :
    fromLastGenerator (earlier ++ later) = fromLastGenerator later := by
  induction earlier with
  | nil => rfl
  | cons step earlier inductionHypothesis =>
      have begunBehind : (earlier ++ later).any Step.isGenerator = true := by
        rw [List.any_append, begun, Bool.or_true]
      rw [List.cons_append, fromLastGenerator, if_pos begunBehind, inductionHypothesis]

/-- Without bounds nothing is written into a query. -/
theorem boundFirst_unbounded (stages : List Stage) : boundFirst {} stages = stages := by
  cases stages with
  | nil => rfl
  | cons stage stages =>
      rw [boundFirst]
      split
      · rfl
      · rfl

variable {registry : StepRegistry} {range : TimeRange}

theorem withGenerator_of_begun {steps : List Step} (begun : steps.any Step.isGenerator = true) :
    registry.withGenerator range steps = .ok steps :=
  if_pos begun

/-- Compiled stages in front of others that begin the pipeline anew. -/
theorem compile_of_readPipeline_append {query superseding : String} {kept stages : List Stage}
    {earlier : List Step} (read : readPipeline query = .ok (kept ++ stages))
    (readBehind : readPipeline superseding = .ok stages)
    (made : kept.mapM registry.compileStage = .ok earlier)
    (begins : ∀ later, stages.mapM registry.compileStage = .ok later →
      later.any Step.isGenerator = true) :
    compile registry query {} = compile registry superseding {} := by
  unfold compile
  rw [read, readBehind]
  dsimp only [Except.mapError, bind, Except.bind]
  rw [boundFirst_unbounded, boundFirst_unbounded, List.mapM_append, made]
  dsimp only [bind, Except.bind, pure, Except.pure]
  cases behind : stages.mapM registry.compileStage with
  | error error => rfl
  | ok later =>
      have begun := begins later behind
      have begunStill : (earlier ++ later).any Step.isGenerator = true := by
        rw [List.any_append, begun, Bool.or_true]
      dsimp only
      rw [withGenerator_of_begun begunStill, withGenerator_of_begun begun]
      dsimp only
      rw [fromLastGenerator_append begun]

theorem exists_eq_append_of_pipe {query : String} {pipe : Token} {tokens : List Token}
    (tokenized : tokenize query = .ok (pipe :: tokens)) (isPipe : pipe.kind = .pipe) :
    ∃ further, query = "|" ++ further := by
  obtain ⟨cut, cutEq, tokens_eq⟩ := tokenize_eq_ok_iff.mp tokenized
  cases cut with
  | nil =>
      obtain ⟨rfl, -⟩ := List.cons.inj tokens_eq
      cases isPipe
  | cons first others =>
      obtain ⟨rfl, -⟩ := List.cons.inj tokens_eq
      obtain ⟨kind, inside, left, rfl, reads, -⟩ := exists_of_tokensFrom_cons cutEq
      generalize text_eq : query.toList = text at reads
      cases reads with
      | pipe =>
          refine ⟨String.ofList left, ?_⟩
          rw [← String.toList_inj, text_eq]
          simp
      | word =>
          rcases classifyWord_cases _ with kind_eq | kind_eq | kind_eq
          all_goals
            rw [kind_eq] at isPipe
            cases isPipe
      | equals | notEquals | openParen | closeParen | comma | quoted | blank => cases isPipe

/-- Put steps of any kind in front of a query that begins with a pipe and whose first stage, if it
compiles, is a step that begins a pipeline.  As long as each of the steps in front can be read and
compiled by itself, even if their types do not fit together, nothing of them shows: without bounds,
both queries compile to one and the same pipeline, or both fail with the same error. -/
theorem superseded_steps_have_no_effect {discarded query : String} {before others : List Stage}
    {first : Stage} {pipe : Token} {tokens : List Token}
    (readBefore : readPipeline discarded = .ok before)
    (compiles : ∀ stage ∈ before, ∃ earlier, registry.Compiles stage earlier)
    (tokenized : tokenize query = .ok (pipe :: tokens)) (isPipe : pipe.kind = .pipe)
    (read : readPipeline query = .ok (first :: others))
    (begins : ∀ step, registry.Compiles first step → step.isGenerator = true) :
    compile registry (discarded ++ query) {} = compile registry query {} := by
  obtain ⟨further, rfl⟩ := exists_eq_append_of_pipe tokenized isPipe
  obtain ⟨kept, kept_eq, readBoth⟩ := exists_readPipeline_append readBefore read
  have keptCompiles : ∀ stage ∈ kept, ∃ earlier, registry.compileStage stage = .ok earlier := by
    intro stage member
    rcases kept_eq with rfl | rfl
    · obtain ⟨earlier, compiled⟩ := compiles stage member
      exact ⟨earlier, StepRegistry.compileStage_eq_ok_iff.mpr compiled⟩
    · cases member
  obtain ⟨earlier, keptMade⟩ := exists_mapM_eq_ok keptCompiles
  refine compile_of_readPipeline_append readBoth read keptMade ?_
  intro later laterMade
  obtain ⟨step, behind, made, -, rfl⟩ :=
    List.forall₂_cons_left_iff.mp (mapM_eq_ok_iff.mp laterMade)
  rw [List.any_cons, begins step (StepRegistry.compileStage_eq_ok_iff.mp made), Bool.true_or]

/-- Steps whose types do not fit together are no query by themselves, and do no harm in front of
one. -/
theorem mistyped_steps_are_superseded :
    compile .builtin "a | table x | rex y" {} =
        .error (.typeMismatch TableStep.stepName RexStep.stepName .events .table) ∧
      (compile .builtin ("a | table x | rex y" ++ "| search b | table z") {}).map
          (fun pipeline => (pipeline.steps.map Step.name, pipeline.columns)) =
        .ok ([searchName, TableStep.stepName], ["z"]) := by
  refine ⟨by cbv, ?_⟩
  have readBefore : readPipeline "a | table x | rex y" =
      .ok [.search "a ", ⟨TableStep.stepName, ∅, "x"⟩, ⟨RexStep.stepName, ∅, "y"⟩] := by
    cbv
  have compiles (stage : Stage) (begins : Bool)
      (evaluated : (StepRegistry.builtin.compileStage stage).map Step.isGenerator = .ok begins) :
      ∃ step, StepRegistry.builtin.Compiles stage step := by
    obtain ⟨step, made, -⟩ := map_eq_ok_iff.mp evaluated
    exact ⟨step, StepRegistry.compileStage_eq_ok_iff.mp made⟩
  have discardedCompile : ∀ stage ∈ [Stage.search "a ", ⟨TableStep.stepName, ∅, "x"⟩,
      ⟨RexStep.stepName, ∅, "y"⟩], ∃ earlier, StepRegistry.builtin.Compiles stage earlier := by
    intro stage member
    simp only [List.mem_cons, List.not_mem_nil, or_false] at member
    rcases member with rfl | rfl | rfl
    · exact compiles _ true (by cbv)
    · exact compiles _ false (by cbv)
    · exact compiles _ false (by cbv)
  obtain ⟨tokens, tokenized⟩ : ∃ tokens,
      tokenize "| search b | table z" = .ok (⟨.pipe, "|", 0⟩ :: tokens) := ⟨_, by cbv⟩
  have read : readPipeline "| search b | table z" =
      .ok [.search "b", ⟨TableStep.stepName, ∅, "z"⟩] := by
    cbv
  have begins (step : Step) (made : StepRegistry.builtin.Compiles (.search "b") step) :
      step.isGenerator = true := by
    cases StepRegistry.compileStage_builtin_iff.mp (StepRegistry.compileStage_eq_ok_iff.mpr made)
      with
    | search | surrounding => rfl
    | rex name_eq | filter name_eq | table name_eq => exact absurd name_eq (by decide)
  rw [superseded_steps_have_no_effect readBefore discardedCompile tokenized rfl read begins]
  cbv

end Pipeline

end LogQuery
