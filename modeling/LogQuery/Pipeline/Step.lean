import LogQuery.Pipeline.Step.Rex
import LogQuery.Pipeline.Step.Search
import LogQuery.Pipeline.Step.Surrounding
import LogQuery.Pipeline.Step.Table
import LogQuery.Pipeline.Step.Where

/-!
# Steps

A step declares what flows into it and out of it.  A step into which nothing flows begins a
pipeline: it emits batches from the sources.  Any other step turns each batch that it receives into
at most one batch.
-/

namespace LogQuery.Pipeline

open LogQuery.Query

/-- What a step declares. -/
structure Declaration where
  name : String
  input : DeclaredType
  output : DeclaredType
  /-- The order that the step gives to results. -/
  sortMode : Option SortMode := none
  /-- The columns of the table that the step makes. -/
  columns : Option (List String) := none
  deriving Repr, DecidableEq

/-- A compiled step. -/
inductive Step where
  | search (step : SearchStep)
  | surrounding (step : SurroundingStep)
  | rex (step : RexStep)
  | filter (step : WhereStep)
  | table (step : TableStep)
  /-- A step that only declares things: it ends at once. -/
  | declared (declaration : Declaration)

namespace Step

/-- What the step declares. -/
def declaration : Step → Declaration
  | .search _ => { name := searchName, input := .fixed .nothing, output := .fixed .events }
  | .surrounding _ =>
      { name := SurroundingStep.stepName, input := .fixed .nothing, output := .fixed .events,
        sortMode := some .asGiven }
  | .rex _ => { name := RexStep.stepName, input := .fixed .events, output := .fixed .events }
  | .filter _ => { name := WhereStep.stepName, input := .propagate, output := .propagate }
  | .table step =>
      { name := TableStep.stepName, input := .fixed .events, output := .fixed .table,
        columns := some step.columns }
  | .declared declaration => declaration

/-- The name of the step. -/
def name (step : Step) : String := step.declaration.name

/-- Whether the step begins a pipeline. -/
def isGenerator (step : Step) : Bool :=
  step.declaration.input == .fixed .nothing

/-- Whether the step receives the batches that are sent to it. -/
def receives : Step → Bool
  | .declared _ => false
  | _ => true

/-- What the step emits from the sources, when so many of its batches are received, or all. -/
def emit (sources : Sources) (received : Option Nat) : Step → Emission
  | .search step => step.emit sources received
  | .surrounding step => step.emit sources received
  | _ => .nothing sources.configs

/-- What the step makes of a batch. -/
def pass : Step → Batch → Option Batch
  | .rex step, batch => step.pass batch
  | .filter step, batch => step.pass batch
  | .table step, batch => step.pass batch
  | _, _ => none

/-- How many batches a row of steps receives: all, or as many as it takes for a step in it to end.
A step that receives nothing has ended before the first batch, and any other step ends with the
first batch that it has made and that the steps after it do not receive. -/
def received : List Step → List Batch → Option Nat
  | [], _ => none
  | step :: steps, batches =>
      if !step.receives then some 0
      else
        let passed := batches.mapIdx fun index batch => (step.pass batch).map (index, ·)
        let made := passed.filterMap id
        match received steps (made.map (·.2)) with
        | none => none
        | some count => (made[count]?).map (·.1 + 1)

/-- Run a step by itself on some batches. -/
def run (step : Step) (sources : Sources) (cancelled closed : Bool) (input : List Batch) :
    Emission :=
  if cancelled then .nothing sources.configs
  else
    let emission := step.emit sources (if closed then some 0 else none)
    let passed := if closed then [] else input.filterMap step.pass
    { emission with batches := emission.batches ++ passed }

end Step

end LogQuery.Pipeline
