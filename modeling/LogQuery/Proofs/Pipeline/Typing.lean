import LogQuery.Proofs.Pipeline.Builtin

/-!
# Types of compiled pipelines

Whatever steps are registered, a query compiles exactly if it can be read, each of its stages
compiles, and types can be assigned to the steps that are left from the last one on that begins a
pipeline.  The assignment is a relation of its own, `Typing`, which says nothing of how types are
found; there is at most one, and it is the one that the compiled pipeline holds.
-/

namespace LogQuery

open LogQuery.Query

namespace Pipeline

/-- The types on both sides of a step are those that it declares, or they are the same if it
propagates. -/
inductive Step.Fits (step : Step) : PipeTypes → Prop where
  | declares {input output : PipeType} (input_eq : step.declaration.input = .fixed input)
      (output_eq : step.declaration.output = .fixed output) : Fits step ⟨input, output⟩
  | propagates {type : PipeType} (input_eq : step.declaration.input = .propagate)
      (output_eq : step.declaration.output = .propagate) : Fits step ⟨type, type⟩

/-- What is read behind a step is what the step gives. -/
def PipeTypes.Connects (types behind : PipeTypes) : Prop :=
  behind.input = types.output

/-- An assignment of types to the steps of a pipeline. -/
structure Typing (steps : List Step) (types : List PipeTypes) : Prop where
  begins : ∃ first rest, steps = first :: rest ∧ first.isGenerator = true
  fits : List.Forall₂ Step.Fits steps types
  connects : types.IsChain PipeTypes.Connects
  gives : ∃ last, types.getLast? = some last ∧ (last.output = .events ∨ last.output = .table)

/-! ## Resolving types -/

section Resolve

variable {steps : List Step} {types : List PipeTypes} {current : PipeType} {before : String}

theorem resolve_nil_eq_ok_iff :
    resolve current before [] = .ok types ↔ current ≠ .nothing ∧ types = [] := by
  unfold resolve
  split
  · next isNothing => simp [isNothing]
  · next notNothing => simp [notNothing, eq_comm]

/-- One step is resolved if its declaration fits the type that comes from the step before it. -/
theorem resolve_cons_eq_ok_iff {step : Step} :
    resolve current before (step :: steps) = .ok types ↔
      ∃ output others, step.Fits ⟨current, output⟩ ∧
        resolve output step.name steps = .ok others ∧ types = ⟨current, output⟩ :: others := by
  rw [resolve]
  constructor
  · intro resolved
    split at resolved
    · next input_eq output_eq =>
        obtain ⟨others, behind, made⟩ := bind_eq_ok.mp resolved
        exact ⟨current, others, .propagates input_eq output_eq, behind, (Except.ok.inj made).symm⟩
    · next input output input_eq output_eq =>
        split at resolved
        · cases resolved
        · next same =>
            obtain rfl := not_not.mp same
            obtain ⟨others, behind, made⟩ := bind_eq_ok.mp resolved
            exact ⟨output, others, .declares input_eq output_eq, behind,
              (Except.ok.inj made).symm⟩
    · cases resolved
  · rintro ⟨output, others, fits, behind, rfl⟩
    cases fits with
    | declares input_eq output_eq =>
        rw [input_eq, output_eq]
        dsimp only
        rw [if_neg (not_not.mpr rfl), behind]
        rfl
    | propagates input_eq output_eq =>
        rw [input_eq, output_eq]
        dsimp only
        rw [behind]
        rfl

/-- Resolving goes through all steps with a type in hand: it finds types that fit and connect, where
`start` gives the type in hand, and the last type is not nothing. -/
theorem resolve_eq_ok_iff (start : PipeTypes) (before : String) :
    resolve start.output before steps = .ok types ↔
      List.Forall₂ Step.Fits steps types ∧ (start :: types).IsChain PipeTypes.Connects ∧
        lastOutput start.output types ≠ .nothing := by
  induction steps generalizing start before types with
  | nil =>
      rw [resolve_nil_eq_ok_iff, List.forall₂_nil_left_iff]
      constructor
      · rintro ⟨gives, rfl⟩
        exact ⟨rfl, .singleton start, gives⟩
      · rintro ⟨rfl, -, gives⟩
        exact ⟨gives, rfl⟩
  | cons step steps inductionHypothesis =>
      rw [resolve_cons_eq_ok_iff, List.forall₂_cons_left_iff]
      constructor
      · rintro ⟨output, others, fits, behind, rfl⟩
        obtain ⟨othersFit, chain, gives⟩ :=
          (inductionHypothesis ⟨start.output, output⟩ step.name).mp behind
        refine ⟨⟨_, others, fits, othersFit, rfl⟩, .cons_cons rfl chain, ?_⟩
        rwa [lastOutput_cons]
      · rintro ⟨⟨⟨input, output⟩, others, fits, othersFit, rfl⟩, chain, gives⟩
        obtain ⟨connects, chain⟩ := List.isChain_cons_cons.mp chain
        obtain rfl : input = start.output := connects
        rw [lastOutput_cons] at gives
        have behind := (inductionHypothesis _ step.name).mpr ⟨othersFit, chain, gives⟩
        exact ⟨output, others, fits, behind, rfl⟩

/-- Without a step that begins the pipeline nothing ever comes: every step would have to give on the
nothing that it gets. -/
theorem exists_isGenerator_of_resolve (resolved : resolve .nothing before steps = .ok types) :
    ∃ step ∈ steps, step.isGenerator = true := by
  induction steps generalizing before types with
  | nil => exact absurd rfl (resolve_nil_eq_ok_iff.mp resolved).1
  | cons step steps inductionHypothesis =>
      obtain ⟨output, others, fits, behind, -⟩ := resolve_cons_eq_ok_iff.mp resolved
      cases fits with
      | declares input_eq output_eq =>
          refine ⟨step, List.mem_cons_self, ?_⟩
          rw [Step.isGenerator, input_eq]
          rfl
      | propagates input_eq output_eq =>
          obtain ⟨later, member, begins⟩ := inductionHypothesis behind
          exact ⟨later, List.mem_cons_of_mem step member, begins⟩

end Resolve

namespace Typing

variable {steps : List Step} {types : List PipeTypes}

theorem input_eq_nothing_of_isGenerator {step : Step} {types : PipeTypes} (fits : step.Fits types)
    (begins : step.isGenerator = true) : types.input = .nothing := by
  have input_fixed : step.declaration.input = .fixed .nothing := eq_of_beq begins
  cases fits with
  | declares input_eq output_eq =>
      rw [input_eq] at input_fixed
      exact DeclaredType.fixed.inj input_fixed
  | propagates input_eq output_eq =>
      rw [input_eq] at input_fixed
      cases input_fixed

/-- The first step reads nothing. -/
theorem exists_first (typing : Typing steps types) :
    ∃ first others, types = first :: others ∧ first.input = .nothing := by
  obtain ⟨step, rest, rfl, begins⟩ := typing.begins
  obtain ⟨first, others, fits, -, rfl⟩ := List.forall₂_cons_left_iff.mp typing.fits
  exact ⟨first, others, rfl, input_eq_nothing_of_isGenerator fits begins⟩

/-- An assignment of types is what resolving finds for steps of which the first begins the
pipeline. -/
theorem iff_resolve {first : Step} {rest : List Step} (begins : first.isGenerator = true) :
    Typing (first :: rest) types ↔ resolve .nothing beforeFirst (first :: rest) = .ok types := by
  rw [show PipeType.nothing = (PipeTypes.mk .nothing .nothing).output from rfl, resolve_eq_ok_iff]
  constructor
  · intro typing
    obtain ⟨firstTypes, others, rfl, reads⟩ := typing.exists_first
    obtain ⟨last, last_eq, gives⟩ := typing.gives
    refine ⟨typing.fits, .cons_cons reads typing.connects, ?_⟩
    rw [lastOutput, last_eq]
    rcases gives with gives | gives
    · simp [gives]
    · simp [gives]
  · rintro ⟨fits, chain, gives⟩
    refine ⟨⟨first, rest, rfl, begins⟩, fits, chain.of_cons, ?_⟩
    cases last_eq : types.getLast? with
    | none => exact absurd rfl (by rwa [lastOutput, last_eq] at gives)
    | some last =>
        refine ⟨last, rfl, ?_⟩
        rw [lastOutput, last_eq] at gives
        cases output_eq : last.output with
        | nothing => exact absurd output_eq gives
        | events => exact .inl rfl
        | table => exact .inr rfl

/-- There is at most one assignment of types. -/
theorem unique {others : List PipeTypes} (typing : Typing steps types)
    (other : Typing steps others) : others = types := by
  obtain ⟨first, rest, rfl, begins⟩ := typing.begins
  have resolved := (iff_resolve begins).mp typing
  have resolvedToo := (iff_resolve begins).mp other
  exact Except.ok.inj (resolvedToo.symm.trans resolved)

end Typing

/-! ## The steps that are left -/

/-- The step compiles from a stage under the name that the stage bears. -/
def StepRegistry.Compiles (registry : StepRegistry) (stage : Stage) (step : Step) : Prop :=
  ∃ compiler, registry.get? stage.name = some compiler ∧
    compiler stage.value stage.options = .ok step

/-- Compiled steps, with the search for everything in front if none of them begins a pipeline. -/
inductive StepRegistry.Generates (registry : StepRegistry) (range : TimeRange)
    (compiled : List Step) : List Step → Prop where
  | begun {step : Step} (member : step ∈ compiled) (begins : step.isGenerator = true) :
      Generates registry range compiled compiled
  | searching {compiler : StepCompiler} {search : Step}
      (goOn : ∀ step ∈ compiled, step.isGenerator = false)
      (found : registry.get? searchName = some compiler)
      (made : compiler "" (SearchStep.bound range ∅) = .ok search) :
      Generates registry range compiled (search :: compiled)

/-- What is left of some steps when all before the last one that begins a pipeline are dropped. -/
inductive Survives : List Step → List Step → Prop where
  | fromLast (before : List Step) {first : Step} {rest : List Step}
      (begins : first.isGenerator = true) (goOn : ∀ step ∈ rest, step.isGenerator = false) :
      Survives (before ++ first :: rest) (first :: rest)

theorem any_isGenerator_eq_false {steps : List Step}
    (goOn : ∀ step ∈ steps, step.isGenerator = false) : steps.any Step.isGenerator = false := by
  rw [List.any_eq_false]
  intro step member
  rw [goOn step member]
  decide

theorem StepRegistry.withGenerator_eq_ok_iff {registry : StepRegistry} {range : TimeRange}
    {compiled steps : List Step} :
    registry.withGenerator range compiled = .ok steps ↔
      registry.Generates range compiled steps := by
  unfold withGenerator compileSearch
  constructor
  · intro made
    split at made
    · next begun =>
        obtain rfl := Except.ok.inj made
        obtain ⟨step, member, begins⟩ := List.any_eq_true.mp begun
        exact .begun member begins
    · next goOn =>
        obtain ⟨search, searchMade, made⟩ := bind_eq_ok.mp made
        obtain rfl := Except.ok.inj made
        split at searchMade
        · next compiler found =>
            refine .searching (fun step member => ?_) found searchMade
            rw [Bool.eq_false_iff]
            exact fun begins => goOn (List.any_eq_true.mpr ⟨step, member, begins⟩)
        · cases searchMade
  · intro generates
    cases generates with
    | begun member begins => exact if_pos (List.any_eq_true.mpr ⟨_, member, begins⟩)
    | searching goOn found made =>
        rw [if_neg (Bool.eq_false_iff.mp (any_isGenerator_eq_false goOn)), found]
        exact bind_eq_ok.mpr ⟨_, made, rfl⟩

theorem Survives.fromLastGenerator_eq {steps chain : List Step} (survives : Survives steps chain) :
    fromLastGenerator steps = chain := by
  cases survives with
  | @fromLast before first rest begins goOn =>
      induction before with
      | nil =>
          exact if_neg (Bool.eq_false_iff.mp (any_isGenerator_eq_false goOn))
      | cons step before inductionHypothesis =>
          have later : (before ++ first :: rest).any Step.isGenerator = true :=
            List.any_eq_true.mpr ⟨first, by simp, begins⟩
          rw [List.cons_append, fromLastGenerator, if_pos later]
          exact inductionHypothesis

/-- The steps that are left can be resolved exactly if they begin with the last step that begins a
pipeline and types can be assigned to them. -/
theorem resolve_fromLastGenerator_iff {steps chain : List Step} {types : List PipeTypes} :
    fromLastGenerator steps = chain ∧ resolve .nothing beforeFirst chain = .ok types ↔
      Survives steps chain ∧ Typing chain types := by
  constructor
  · rintro ⟨rfl, resolved⟩
    -- If nothing was dropped for want of a generator, there is none that resolving could find.
    have begun : steps.any Step.isGenerator = true := by
      by_contra none
      have kept : fromLastGenerator steps = steps := by
        cases steps with
        | nil => rfl
        | cons step steps =>
            rw [List.any_cons, Bool.or_eq_true, not_or] at none
            exact if_neg none.2
      rw [kept] at resolved
      obtain ⟨step, member, begins⟩ := exists_isGenerator_of_resolve resolved
      exact none (List.any_eq_true.mpr ⟨step, member, begins⟩)
    obtain ⟨before, first, rest, rfl, begins, goOn, left⟩ := exists_fromLastGenerator_eq begun
    rw [left] at resolved ⊢
    exact ⟨.fromLast before begins goOn, (Typing.iff_resolve begins).mpr resolved⟩
  · rintro ⟨survives, typing⟩
    obtain ⟨first, rest, rfl, begins⟩ := typing.begins
    exact ⟨survives.fromLastGenerator_eq, (Typing.iff_resolve begins).mp typing⟩

/-- What the last of some steps declares that declares anything. -/
inductive LastDeclared {α : Type} (declared? : Step → Option α) (steps : List Step) :
    Option α → Prop where
  | undeclared (silent : ∀ step ∈ steps, declared? step = none) :
      LastDeclared declared? steps none
  | declared (before behind : List Step) {step : Step} {value : α}
      (steps_eq : steps = before ++ step :: behind) (declares : declared? step = some value)
      (silent : ∀ later ∈ behind, declared? later = none) :
      LastDeclared declared? steps (some value)

theorem lastDeclared_findSome? {α : Type} (declared? : Step → Option α) (steps : List Step) :
    LastDeclared declared? steps (steps.reverse.findSome? declared?) := by
  cases found : steps.reverse.findSome? declared? with
  | none =>
      rw [List.findSome?_eq_none_iff] at found
      exact .undeclared fun step member => found step (List.mem_reverse.mpr member)
  | some value =>
      obtain ⟨behind, step, before, steps_eq, declares, silent⟩ :=
        List.findSome?_eq_some_iff.mp found
      refine .declared before.reverse behind.reverse ?_ declares ?_
      · rw [← List.reverse_reverse steps, steps_eq]
        simp
      · intro later member
        exact silent later (List.mem_reverse.mp member)

/-- What a query compiles to under any registry of steps.  Compiling succeeds exactly if the query
can be read, each of its stages compiles, and types can be assigned to the steps from the last one
on that begins a pipeline, where the search for everything is put in front if no step begins one.
The compiled pipeline holds these steps and their only assignment of types, and takes its results'
type, order and columns from them. -/
theorem compile_succeeds_exactly_on_typed_steps (registry : StepRegistry) (query : String)
    (range : TimeRange) :
    (∀ pipeline, compile registry query range = .ok pipeline ↔
      ∃ stages compiled steps, readPipeline query = .ok stages ∧
        List.Forall₂ registry.Compiles (boundFirst range stages) compiled ∧
        registry.Generates range compiled steps ∧ Survives steps pipeline.steps ∧
        Typing pipeline.steps pipeline.types) ∧
    ∀ pipeline, compile registry query range = .ok pipeline →
      (∀ types, Typing pipeline.steps types → types = pipeline.types) ∧
      (∃ first others, pipeline.types = first :: others ∧ first.input = .nothing) ∧
      (∃ first rest, pipeline.steps = first :: rest ∧ first.isGenerator = true ∧
        ∀ step ∈ rest, step.isGenerator = false) ∧
      (∃ last, pipeline.types.getLast? = some last ∧ pipeline.outputType = last.output) ∧
      (∃ mode, LastDeclared (·.declaration.sortMode) pipeline.steps mode ∧
        pipeline.sortMode = mode.getD .newestFirst) ∧
      ∃ columns, LastDeclared (·.declaration.columns) pipeline.steps columns ∧
        pipeline.columns = if pipeline.outputType = .table then columns.getD [] else [] := by
  have succeeds_iff (pipeline : Pipeline) : compile registry query range = .ok pipeline ↔
      ∃ stages compiled steps, readPipeline query = .ok stages ∧
        List.Forall₂ registry.Compiles (boundFirst range stages) compiled ∧
        registry.Generates range compiled steps ∧ Survives steps pipeline.steps ∧
        Typing pipeline.steps pipeline.types := by
    rw [compile_eq_ok_iff]
    simp only [StepRegistry.compileStage_eq_ok_iff, StepRegistry.withGenerator_eq_ok_iff,
      ← resolve_fromLastGenerator_iff]
    constructor
    · rintro ⟨stages, compiled, steps, types, read, compiles, generates, resolved, rfl⟩
      exact ⟨stages, compiled, steps, read, compiles, generates, rfl, resolved⟩
    · rintro ⟨stages, compiled, steps, read, compiles, generates, left, resolved⟩
      refine ⟨stages, compiled, steps, pipeline.types, read, compiles, generates, ?_, ?_⟩
      · rwa [left]
      · rw [left]
  refine ⟨succeeds_iff, ?_⟩
  intro pipeline succeeds
  obtain ⟨stages, compiled, steps, -, -, -, survives, typing⟩ := (succeeds_iff pipeline).mp succeeds
  refine ⟨fun types other => typing.unique other, typing.exists_first, ?_, ?_, ?_, ?_⟩
  · generalize pipeline.steps = chain at survives
    cases survives with
    | fromLast before begins goOn => exact ⟨_, _, rfl, begins, goOn⟩
  · obtain ⟨last, last_eq, -⟩ := typing.gives
    exact ⟨last, last_eq, by rw [outputType, last_eq]⟩
  · exact ⟨_, lastDeclared_findSome? _ pipeline.steps, rfl⟩
  · exact ⟨_, lastDeclared_findSome? _ pipeline.steps, rfl⟩

end Pipeline

end LogQuery
