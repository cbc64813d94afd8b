import LogQuery.Proofs.Pipeline.Typing
import Mathlib

/-!
# Why queries do not compile

With the builtin steps it is always the query that is at fault: it cannot be read, it names a step
that there is not, one of its stages makes no sense, or its steps do not fit together.  The last
happens in one way only.  A table step makes rows of events, and a step further behind, perhaps
after some that filter the rows, asks for events.
-/

namespace LogQuery

open LogQuery.Query

namespace Pipeline

namespace Step

/-- The step makes rows of events. -/
def MakesRows : Step → Prop
  | .table _ => True
  | _ => False

/-- The step works on events only: it extracts fields from them or makes rows of them. -/
def AsksForEvents : Step → Prop
  | .rex _ | .table _ => True
  | _ => False

/-- The second step may stand anywhere behind the first one. -/
def Admits (earlier later : Step) : Prop :=
  earlier.MakesRows → ¬later.AsksForEvents

end Step

/-- The first step that asks for events behind one that has made rows of them, and the step directly
before it. -/
inductive FirstMisfit : List Step → Step → Step → Prop where
  | behind (front behind : List Step) {before misfit table : Step}
      (admits : (front ++ [before]).Pairwise Step.Admits) (member : table ∈ front ++ [before])
      (makesRows : table.MakesRows) (asks : misfit.AsksForEvents) :
      FirstMisfit (front ++ before :: misfit :: behind) before misfit

/-- What comes from steps that can be resolved: rows if one of them makes rows, and else events. -/
inductive Gives (steps : List Step) : PipeType → Prop where
  | rows {table : Step} (member : table ∈ steps) (makesRows : table.MakesRows) : Gives steps .table
  | events (noRows : ∀ step ∈ steps, ¬step.MakesRows) : Gives steps .events

/-! ## Steps that fit together -/

section Resolve

variable {front rest : List Step} {before step : Step} {current output : PipeType}
  {error : CompileError}

theorem pairwise_append_singleton (admits : front.Pairwise Step.Admits)
    (admitted : ∀ earlier ∈ front, earlier.Admits step) :
    (front ++ [step]).Pairwise Step.Admits := by
  refine List.pairwise_append.mpr ⟨admits, List.pairwise_singleton _ _, ?_⟩
  intro earlier member other isStep
  rw [List.mem_singleton.mp isStep]
  exact admitted earlier member

/-- A step that fits goes on with what comes to it, and asks for events only where there are
some. -/
theorem Gives.append_of_fits (gives : Gives front current) (admits : front.Pairwise Step.Admits)
    (continues : step.Continues) (fits : step.Fits ⟨current, output⟩) :
    Gives (front ++ [step]) output ∧ (front ++ [step]).Pairwise Step.Admits := by
  have noRowsStill (noRows : ∀ earlier ∈ front, ¬earlier.MakesRows) (notHere : ¬step.MakesRows) :
      ∀ earlier ∈ front ++ [step], ¬earlier.MakesRows := by
    intro earlier member
    rcases List.mem_append.mp member with member | isStep
    · exact noRows earlier member
    · rwa [List.mem_singleton.mp isStep]
  cases continues with
  | rex rex =>
      cases fits with
      | propagates input_eq => cases input_eq
      | declares input_eq output_eq =>
          cases input_eq
          cases output_eq
          cases gives with
          | events noRows =>
              exact ⟨.events (noRowsStill noRows id), pairwise_append_singleton admits
                fun earlier member makesRows => absurd makesRows (noRows earlier member)⟩
  | filter filter =>
      cases fits with
      | declares input_eq => cases input_eq
      | propagates input_eq output_eq =>
          refine ⟨?_, pairwise_append_singleton admits fun _ _ _ => id⟩
          cases gives with
          | rows member makesRows => exact .rows (List.mem_append_left _ member) makesRows
          | events noRows => exact .events (noRowsStill noRows id)
  | table table =>
      cases fits with
      | propagates input_eq => cases input_eq
      | declares input_eq output_eq =>
          cases input_eq
          cases output_eq
          cases gives with
          | events noRows =>
              have member : Step.table table ∈ front ++ [.table table] :=
                List.mem_append_right _ (List.mem_singleton.mpr rfl)
              exact ⟨.rows member trivial, pairwise_append_singleton admits
                fun earlier member makesRows => absurd makesRows (noRows earlier member)⟩

/-- Resolving fails at a step that asks for events where there are none, or behind it. -/
theorem Step.Continues.resolve_cons_eq_error (continues : step.Continues) {name : String}
    (fails : resolve current name (step :: rest) = .error error) :
    step.AsksForEvents ∧ current ≠ .events ∧
        error = .typeMismatch name step.name .events current ∨
      ∃ output, step.Fits ⟨current, output⟩ ∧ resolve output step.name rest = .error error := by
  have asking (output : PipeType) (input_eq : step.declaration.input = .fixed .events)
      (output_eq : step.declaration.output = .fixed output) :
      current ≠ .events ∧ error = .typeMismatch name step.name .events current ∨
        ∃ output, step.Fits ⟨current, output⟩ ∧ resolve output step.name rest = .error error := by
    rw [resolve, input_eq, output_eq] at fails
    dsimp only at fails
    split at fails
    · next differs => exact .inl ⟨Ne.symm differs, (Except.error.inj fails).symm⟩
    · next same =>
        obtain rfl := not_not.mp same
        rcases bind_eq_error_iff.mp fails with behind | ⟨types, -, made⟩
        · exact .inr ⟨output, .declares input_eq output_eq, behind⟩
        · cases made
  cases continues with
  | rex rex => exact (asking .events rfl rfl).imp_left fun misfit => ⟨trivial, misfit⟩
  | table table => exact (asking .table rfl rfl).imp_left fun misfit => ⟨trivial, misfit⟩
  | filter filter =>
      rcases bind_eq_error_iff.mp fails with behind | ⟨types, -, made⟩
      · exact .inr ⟨current, .propagates rfl rfl, behind⟩
      · cases made

/-- Steps that can be resolved admit each other, and they give what the last type says. -/
theorem gives_of_resolve {types : List PipeTypes} (gives : Gives (front ++ [before]) current)
    (admits : (front ++ [before]).Pairwise Step.Admits) (goOn : ∀ step ∈ rest, step.Continues)
    (resolved : resolve current before.name rest = .ok types) :
    Gives (front ++ before :: rest) (lastOutput current types) ∧
      (front ++ before :: rest).Pairwise Step.Admits := by
  -- Every step that has been resolved moves to the front, and what the front gives is the type in
  -- hand.
  induction rest generalizing front before current types with
  | nil =>
      obtain ⟨-, rfl⟩ := resolve_nil_eq_ok_iff.mp resolved
      exact ⟨gives, admits⟩
  | cons step rest inductionHypothesis =>
      obtain ⟨continues, othersContinue⟩ := List.forall_mem_cons.mp goOn
      obtain ⟨output, others, fits, behind, rfl⟩ := resolve_cons_eq_ok_iff.mp resolved
      obtain ⟨givesStill, admitsStill⟩ := gives.append_of_fits admits continues fits
      have givesAll := inductionHypothesis givesStill admitsStill othersContinue behind
      rwa [List.append_assoc, ← lastOutput_cons current ⟨current, output⟩] at givesAll

/-- Steps that cannot be resolved have a first misfit. -/
theorem exists_firstMisfit_of_resolve (gives : Gives (front ++ [before]) current)
    (admits : (front ++ [before]).Pairwise Step.Admits) (goOn : ∀ step ∈ rest, step.Continues)
    (fails : resolve current before.name rest = .error error) :
    ∃ last misfit, FirstMisfit (front ++ before :: rest) last misfit ∧
      error = .typeMismatch last.name misfit.name .events .table := by
  induction rest generalizing front before current with
  | nil =>
      rw [resolve] at fails
      split at fails
      · next isNothing =>
          rw [isNothing] at gives
          cases gives
      · cases fails
  | cons step rest inductionHypothesis =>
      obtain ⟨continues, othersContinue⟩ := List.forall_mem_cons.mp goOn
      rcases continues.resolve_cons_eq_error fails with
        ⟨asks, notEvents, error_eq⟩ | ⟨output, fits, behind⟩
      · cases gives with
        | rows member makesRows =>
            exact ⟨before, step, .behind front rest admits member makesRows asks, error_eq⟩
        | events _ => exact absurd rfl notEvents
      · obtain ⟨givesStill, admitsStill⟩ := gives.append_of_fits admits continues fits
        obtain ⟨last, misfit, first, error_eq⟩ :=
          inductionHypothesis givesStill admitsStill othersContinue behind
        rw [List.append_assoc] at first
        exact ⟨last, misfit, first, error_eq⟩

end Resolve

/-- Some steps do not admit each other exactly if one makes rows and one behind it asks for
events. -/
theorem not_pairwise_admits_iff {steps : List Step} :
    ¬steps.Pairwise Step.Admits ↔ ∃ table misfit, [table, misfit].Sublist steps ∧
      table.MakesRows ∧ misfit.AsksForEvents := by
  rw [List.pairwise_iff_forall_sublist]
  simp only [Step.Admits, not_forall, not_not, exists_prop]

theorem FirstMisfit.not_pairwise {steps : List Step} {before misfit : Step}
    (first : FirstMisfit steps before misfit) : ¬steps.Pairwise Step.Admits := by
  cases first with
  | @behind front behind before misfit table admits member makesRows asks =>
      rw [List.append_cons, List.pairwise_append]
      rintro ⟨-, -, across⟩
      exact across table member misfit List.mem_cons_self makesRows asks

theorem Step.Begins.resolve_cons {first : Step} {rest : List Step} (begins : first.Begins) :
    resolve .nothing beforeFirst (first :: rest) =
      (resolve .events first.name rest).map (⟨.nothing, .events⟩ :: ·) := by
  cases begins with
  | search step => rfl
  | surrounding step => rfl

theorem Step.Begins.gives {first : Step} (begins : first.Begins) :
    Gives ([] ++ [first]) .events := by
  refine .events fun step member makesRows => ?_
  rw [List.mem_singleton.mp member] at makesRows
  cases begins with
  | search | surrounding => exact makesRows

/-- The steps of a pipeline can be resolved exactly if they admit each other. -/
theorem Step.Begins.resolve_eq_error {first : Step} {rest : List Step} (begins : first.Begins)
    (goOn : ∀ step ∈ rest, step.Continues) :
    ((∃ error, resolve .nothing beforeFirst (first :: rest) = .error error) ↔
        ¬(first :: rest).Pairwise Step.Admits) ∧
      ∀ error, resolve .nothing beforeFirst (first :: rest) = .error error →
        ∃ before misfit, FirstMisfit (first :: rest) before misfit ∧
          error = .typeMismatch before.name misfit.name .events .table := by
  have admits : ([] ++ [first]).Pairwise Step.Admits := List.pairwise_singleton _ _
  have misfits (error : CompileError)
      (fails : resolve .nothing beforeFirst (first :: rest) = .error error) :
      ∃ before misfit, FirstMisfit (first :: rest) before misfit ∧
        error = .typeMismatch before.name misfit.name .events .table := by
    rw [begins.resolve_cons, map_eq_error_iff] at fails
    exact exists_firstMisfit_of_resolve begins.gives admits goOn fails
  refine ⟨⟨?_, ?_⟩, misfits⟩
  · rintro ⟨error, fails⟩
    obtain ⟨before, misfit, firstMisfit, -⟩ := misfits error fails
    exact firstMisfit.not_pairwise
  · intro apart
    rw [begins.resolve_cons]
    cases resolved : resolve .events first.name rest with
    | error error => exact ⟨error, rfl⟩
    | ok types => exact absurd (gives_of_resolve begins.gives admits goOn resolved).2 apart

/-! ## Errors of single stages -/

/-- What can be wrong with a query before its steps are put together. -/
inductive IsOfStage : CompileError → Prop where
  | query (error : QueryError) : IsOfStage (.query error)
  | unknownStep (name : String) : IsOfStage (.unknownStep name)
  | step (fault : StepFault) : IsOfStage (.step fault)

theorem isOfStage_of_readTime {options : Fields} {name : String} {error : CompileError}
    (fails : SearchStep.readTime options name = .error error) : IsOfStage error := by
  unfold SearchStep.readTime at fails
  split at fails
  · cases fails
  · split at fails
    · cases fails
    · obtain rfl := Except.error.inj fails
      exact .step _

theorem isOfStage_of_searchCompile {value : String} {options : Fields} {error : CompileError}
    (fails : SearchStep.compile value options = .error error) : IsOfStage error := by
  unfold SearchStep.compile at fails
  rcases bind_eq_error_iff.mp fails with startFails | ⟨start, -, fails⟩
  · exact isOfStage_of_readTime startFails
  rcases bind_eq_error_iff.mp fails with stopFails | ⟨stop, -, fails⟩
  · exact isOfStage_of_readTime stopFails
  rcases bind_eq_error_iff.mp fails with readFails | ⟨search, -, made⟩
  · obtain ⟨queryError, -, rfl⟩ := mapError_eq_error_iff.mp readFails
    exact .query queryError
  · cases made

theorem isOfStage_of_get?_builtin {name value : String} {options : Fields}
    {compiler : StepCompiler} {error : CompileError}
    (found : StepRegistry.builtin.get? name = some compiler)
    (fails : compiler value options = .error error) : IsOfStage error := by
  have ofFault {outcome : Except StepFault Step}
      (fails : outcome.mapError CompileError.step = .error error) : IsOfStage error := by
    obtain ⟨fault, -, rfl⟩ := mapError_eq_error_iff.mp fails
    exact .step fault
  rcases StepRegistry.get?_builtin_eq_some_iff.mp found with ⟨-, rfl⟩ | ⟨-, rfl⟩ | ⟨-, rfl⟩ |
    ⟨-, rfl⟩ | ⟨-, rfl⟩
  · exact isOfStage_of_searchCompile (map_eq_error_iff.mp fails)
  · exact ofFault fails
  · exact ofFault fails
  · exact ofFault fails
  · exact ofFault fails

variable {query : String} {range : TimeRange}

/-- Compiling goes wrong at a single stage, at the search that is put in front, or where the steps
that are left are put together. -/
theorem isOfStage_or_resolve_of_compile {error : CompileError}
    (fails : compile .builtin query range = .error error) :
    IsOfStage error ∨ ∃ first rest, first.Begins ∧ (∀ step ∈ rest, step.Continues) ∧
      resolve .nothing beforeFirst (first :: rest) = .error error := by
  cases failsToCompile_of_compile fails with
  | query unread => exact .inl (.query _)
  | @stage _ stage _ _ _ stageFails =>
      unfold StepRegistry.compileStage at stageFails
      split at stageFails
      · next compiler found => exact .inl (isOfStage_of_get?_builtin found stageFails)
      · obtain rfl := Except.error.inj stageFails
        exact .inl (.unknownStep _)
  | search searchFails =>
      rw [StepRegistry.compileSearch_builtin, map_eq_error_iff] at searchFails
      exact .inl (isOfStage_of_searchCompile searchFails)
  | types compiles generated resolveFails =>
      obtain ⟨first, rest, chain_eq, begins, goOn⟩ :=
        exists_chain_of_withGenerator compiles generated
      rw [chain_eq] at resolveFails
      exact .inr ⟨first, rest, begins, goOn, resolveFails⟩

/-- A query whose stages all compile compiles exactly as the steps that are left can be
resolved. -/
theorem compile_eq_map_resolve {registry : StepRegistry} {stages : List Stage}
    {compiled steps chain : List Step} (read : readPipeline query = .ok stages)
    (compiles : List.Forall₂ registry.Compiles (boundFirst range stages) compiled)
    (generates : registry.Generates range compiled steps) (survives : Survives steps chain) :
    compile registry query range =
      (resolve .nothing beforeFirst chain).map fun types => ⟨chain, types⟩ := by
  have made : (boundFirst range stages).mapM registry.compileStage = .ok compiled :=
    mapM_eq_ok_iff.mpr (compiles.imp fun _ _ => StepRegistry.compileStage_eq_ok_iff.mpr)
  unfold compile
  rw [read]
  dsimp only [Except.mapError, bind, Except.bind]
  rw [made]
  dsimp only
  rw [StepRegistry.withGenerator_eq_ok_iff.mpr generates]
  dsimp only
  rw [survives.fromLastGenerator_eq]
  cases resolve .nothing beforeFirst chain with
  | error error => rfl
  | ok types => rfl

/-- Why a query does not compile under the builtin steps.  It is always the query that is at fault;
a pipeline without output or an internal error never comes up.  If all stages compile, and the
search for everything does where it is put in front, the query still fails to compile exactly if,
among the steps from the last one on that begins a pipeline, a table or rex step stands somewhere
behind a table step.  The error then names the first such step, and the step directly before it. -/
theorem only_the_query_is_at_fault (query : String) (range : TimeRange) :
    (∀ error, compile .builtin query range = .error error →
      error.isOfQuery = true ∧ (∀ last, error ≠ .noOutput last) ∧ error ≠ .noSearchStep ∧
        ∀ name input output, error ≠ .halfPropagating name input output) ∧
    ∀ stages compiled steps chain, readPipeline query = .ok stages →
      List.Forall₂ StepRegistry.builtin.Compiles (boundFirst range stages) compiled →
      StepRegistry.builtin.Generates range compiled steps → Survives steps chain →
      ((∃ error, compile .builtin query range = .error error) ↔
        ∃ table misfit, [table, misfit].Sublist chain ∧ table.MakesRows ∧
          misfit.AsksForEvents) ∧
      ∀ error, compile .builtin query range = .error error →
        ∃ before misfit, FirstMisfit chain before misfit ∧
          error = .typeMismatch before.name misfit.name .events .table := by
  constructor
  · intro error fails
    rcases isOfStage_or_resolve_of_compile fails with ofStage | ⟨first, rest, begins, goOn, misfits⟩
    · cases ofStage with
      | query error => simp [CompileError.isOfQuery]
      | unknownStep name => simp [CompileError.isOfQuery]
      | step fault => simp [CompileError.isOfQuery]
    · obtain ⟨before, misfit, -, rfl⟩ := (begins.resolve_eq_error goOn).2 error misfits
      simp [CompileError.isOfQuery]
  · intro stages compiled steps chain read compiles generates survives
    obtain ⟨first, rest, chain_eq, begins, goOn⟩ := exists_chain_of_withGenerator
      (compiles.imp fun _ _ => StepRegistry.compileStage_eq_ok_iff.mpr)
      (StepRegistry.withGenerator_eq_ok_iff.mpr generates)
    obtain rfl : chain = first :: rest := survives.fromLastGenerator_eq.symm.trans chain_eq
    obtain ⟨resolves_iff, misfits⟩ := begins.resolve_eq_error goOn
    rw [compile_eq_map_resolve read compiles generates survives]
    simp only [map_eq_error_iff]
    exact ⟨resolves_iff.trans not_pairwise_admits_iff, misfits⟩

/-- A filter between two tables does not help: the search for everything is put in front of the
three steps, and the error names the filter as the step before the second table. -/
theorem table_behind_filtered_rows_is_a_misfit :
    let compiled : List Step := [.table ⟨["x"]⟩, .filter ⟨[⟨"x", "y"⟩]⟩, .table ⟨["x"]⟩]
    let error : CompileError :=
      .typeMismatch WhereStep.stepName TableStep.stepName .events .table
    compile .builtin "| table x | where x=y | table x" {} = .error error ∧
      ∃ before misfit, FirstMisfit (.search ⟨{}, {}⟩ :: compiled) before misfit ∧
        error = .typeMismatch before.name misfit.name .events .table := by
  intro compiled error
  have fails : compile .builtin "| table x | where x=y | table x" {} = .error error := by cbv
  refine ⟨fails, ?_⟩
  have read : readPipeline "| table x | where x=y | table x" =
      .ok [⟨TableStep.stepName, ∅, "x"⟩, ⟨WhereStep.stepName, .ofPairs [("x", "y")], ""⟩,
        ⟨TableStep.stepName, ∅, "x"⟩] := by
    cbv
  have tableCompiles : StepRegistry.builtin.Compiles ⟨TableStep.stepName, ∅, "x"⟩
      (.table ⟨["x"]⟩) :=
    StepRegistry.compileStage_eq_ok_iff.mp (by cbv)
  have filterCompiles : StepRegistry.builtin.Compiles
      ⟨WhereStep.stepName, .ofPairs [("x", "y")], ""⟩ (.filter ⟨[⟨"x", "y"⟩]⟩) :=
    StepRegistry.compileStage_eq_ok_iff.mp (by cbv)
  have searched :
      StepRegistry.builtin.withGenerator {} compiled = .ok (.search ⟨{}, {}⟩ :: compiled) := by
    cbv
  have goOn : ∀ step ∈ compiled, step.isGenerator = false := by
    intro step member
    simp only [compiled, List.mem_cons, List.not_mem_nil, or_false] at member
    rcases member with rfl | rfl | rfl
    all_goals rfl
  exact ((only_the_query_is_at_fault "| table x | where x=y | table x" {}).2 _ _ _ _ read
    (.cons tableCompiles (.cons filterCompiles (.cons tableCompiles .nil)))
    (StepRegistry.withGenerator_eq_ok_iff.mp searched) (.fromLast [] rfl goOn)).2 _ fails

end Pipeline

end LogQuery
