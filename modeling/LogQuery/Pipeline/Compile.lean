import LogQuery.Pipeline.Registry
import LogQuery.Query.Stage.Reader

/-!
# Compiling a query

Each stage of a query becomes a step.  If none of them begins a pipeline, a search for everything is
put in front; whatever stands before the last step that begins one has no effect and is left out.
Then the types of the steps have to fit together.
-/

namespace LogQuery

open LogQuery.Query

namespace Pipeline

/-- Steps from the last one on that begins a pipeline, or all of them if there is none. -/
def fromLastGenerator : List Step → List Step
  | [] => []
  | step :: steps =>
      if steps.any Step.isGenerator then fromLastGenerator steps else step :: steps

/-- The types on both sides of each step, where `current` comes from the step `before`.  A step that
declares types reads exactly what comes, and a step that propagates gives on what comes. -/
def resolve (current : PipeType) (before : String) :
    List Step → Except CompileError (List PipeTypes)
  | [] => if current = .nothing then .error (.noOutput before) else .ok []
  | step :: steps =>
      match step.declaration.input, step.declaration.output with
      | .propagate, .propagate => do
          let types ← resolve current step.name steps
          .ok (⟨current, current⟩ :: types)
      | .fixed input, .fixed output =>
          if input ≠ current then .error (.typeMismatch before step.name input current)
          else do
            let types ← resolve output step.name steps
            .ok (⟨input, output⟩ :: types)
      | input, output => .error (.halfPropagating step.name input output)

/-- What stands for the step before the first one in messages. -/
def beforeFirst : String := "<start>"

/-- Write the bounds of a time range into the options of a query that begins with a search. -/
def boundFirst (range : TimeRange) : List Stage → List Stage
  | [] => []
  | stage :: stages =>
      if stage.name = searchName then
        { stage with options := SearchStep.bound range stage.options } :: stages
      else stage :: stages

end Pipeline

open Pipeline

namespace Pipeline.StepRegistry

/-- Compile one stage. -/
def compileStage (registry : StepRegistry) (stage : Stage) : Except CompileError Step :=
  match registry.get? stage.name with
  | some compiler => compiler stage.value stage.options
  | none => .error (.unknownStep stage.name)

/-- The search for everything in a time range. -/
def compileSearch (registry : StepRegistry) (range : TimeRange) : Except CompileError Step :=
  match registry.get? searchName with
  | some compiler => compiler "" (SearchStep.bound range ∅)
  | none => .error .noSearchStep

/-- Make sure that some step begins the pipeline. -/
def withGenerator (registry : StepRegistry) (range : TimeRange) (steps : List Step) :
    Except CompileError (List Step) :=
  if steps.any Step.isGenerator then .ok steps
  else do
    let search ← registry.compileSearch range
    .ok (search :: steps)

end Pipeline.StepRegistry

/-- Steps that fit together, and the types on both sides of each. -/
structure Pipeline where
  steps : List Step
  types : List PipeTypes

namespace Pipeline

/-- Compile a query. -/
def compile (registry : StepRegistry) (query : String) (range : TimeRange) :
    Except CompileError Pipeline := do
  let stages ← (readPipeline query).mapError .query
  let compiled ← (boundFirst range stages).mapM registry.compileStage
  let steps := fromLastGenerator (← registry.withGenerator range compiled)
  let types ← resolve .nothing beforeFirst steps
  .ok { steps, types }

/-- What the pipeline gives. -/
def outputType (pipeline : Pipeline) : PipeType :=
  match pipeline.types.getLast? with
  | some types => types.output
  | none => .nothing

/-- The order of the results: that of the last step that declares one. -/
def sortMode (pipeline : Pipeline) : SortMode :=
  (pipeline.steps.reverse.findSome? (·.declaration.sortMode)).getD .newestFirst

/-- The columns of the results: those of the last step that declares some, if there is a table. -/
def columns (pipeline : Pipeline) : List String :=
  if pipeline.outputType = .table then
    (pipeline.steps.reverse.findSome? (·.declaration.columns)).getD []
  else []

/-- Run the pipeline.  Each step works on all that the step before it has sent; a first step ends
when it has a batch that is not received any more. -/
def run (pipeline : Pipeline) (sources : Sources) (cancelled : Bool) : Emission :=
  match pipeline.steps with
  | [] => .nothing sources.configs
  | first :: steps =>
      if cancelled then .nothing sources.configs
      else
        let unbounded := first.emit sources none
        let emission :=
          match Step.received steps unbounded.batches with
          | none => unbounded
          | some count => first.emit sources (some count)
        let passed (batches : List Batch) (step : Step) : List Batch := batches.filterMap step.pass
        { emission with batches := steps.foldl passed emission.batches }

end Pipeline

end LogQuery
