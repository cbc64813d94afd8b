import LogQuery.Extraction.Regex
import LogQuery.Pipeline.Batch
import LogQuery.Pipeline.Error

/-!
# The rex step

It finds further fields in one field of each event by a regular expression.  An event without that
field passes unchanged.
-/

namespace LogQuery.Pipeline

open LogQuery.Extraction

/-- A field, and the expression that is applied to it. -/
structure RexStep where
  field : String
  expression : Regex
  deriving DecidableEq

namespace RexStep

/-- The name of the step. -/
def stepName : String := "rex"

/-- The step that options and a value call for; unless an option names a field, the text of the
event is searched. -/
def compile (value : String) (options : Fields) : Except StepFault RexStep :=
  if value.isEmpty then .error .missingExpression
  else
    match Regex.compile value with
    | .error _ => .error .invalidExpression
    | .ok expression => .ok { field := options["field"]?.getD "_raw", expression }

/-- An event with what is found in it. -/
def extend (step : RexStep) (event : ExtractedEvent) : ExtractedEvent :=
  match event.value? step.field with
  | none => event
  | some text =>
      { event with fields := event.fields.override (fieldsByRegex [step.expression] text) }

/-- What becomes of a batch. -/
def pass (step : RexStep) (batch : Batch) : Option Batch :=
  some (.ofEvents (batch.events.map step.extend))

end RexStep

end LogQuery.Pipeline
