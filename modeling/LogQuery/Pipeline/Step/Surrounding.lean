import LogQuery.Extraction.FileMatcher
import LogQuery.Pipeline.Batch
import LogQuery.Pipeline.Error

/-!
# The surrounding step

It reads the events around one event of a source, in a single batch.  Events without a parser are
left out.
-/

namespace LogQuery.Pipeline

open LogQuery.Extraction LogQuery.Text

/-- An event, and how many events around it are asked for. -/
structure SurroundingStep where
  eventId : Int
  count : Nat
  deriving Repr, DecidableEq

namespace SurroundingStep

/-- The name of the step. -/
def stepName : String := "surrounding"

/-- How many events are asked for unless a query says otherwise. -/
def defaultCount : Nat := 100

/-- The number of the event. -/
def readEventId (options : Fields) : Except StepFault Int :=
  match options["eventId"]? with
  | none => .error .missingEventId
  | some text => (readInteger signed64 text).mapError (.invalidEventId text)

/-- The count: an option, or else the value if there is one. -/
def readCount (value : String) (options : Fields) : Except StepFault Nat :=
  match options["count"]?.or (if value.isEmpty then none else some value) with
  | none => .ok defaultCount
  | some text => ((readInteger unsigned64 text).map Int.toNat).mapError (.invalidCount text)

/-- The step that options and a value call for. -/
def compile (value : String) (options : Fields) : Except StepFault SurroundingStep := do
  let eventId ← readEventId options
  let count ← readCount value options
  .ok { eventId, count }

/-- Run the step; of its batches so many are received, or all. -/
def emit (step : SurroundingStep) (sources : Sources) (received : Option Nat) : Emission :=
  match sources.events.surrounding step.eventId step.count with
  | .error error => .failure ⟨stepName, error.message⟩ sources.configs
  | .ok events =>
      match sources.configs.read with
      | (.error reason, configs) => .failure (.ofReading stepName reason) configs
      | (.ok config, configs) =>
          let files := FileMatcher.ofConfig config
          let extracted := events.filterMap fun event =>
            (files.parserFor? event.source).map (·.apply event)
          if received = some 0 then .nothing configs
          else (Emission.nothing configs).prepend (.ofEvents extracted)

end SurroundingStep

end LogQuery.Pipeline
