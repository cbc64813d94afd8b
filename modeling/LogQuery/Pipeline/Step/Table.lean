import LogQuery.Pipeline.Batch
import LogQuery.Pipeline.Error
import LogQuery.Text.Blank

/-!
# The table step

It makes a row of each event: the values of some fields, where a missing one reads as the empty
text.
-/

namespace LogQuery.Pipeline

open LogQuery.Text

/-- The columns of a table in their order. -/
structure TableStep where
  columns : List String
  deriving Repr, DecidableEq

namespace TableStep

/-- The name of the step. -/
def stepName : String := "table"

/-- The names between the commas of a text, without white space around them; empty ones do not
count. -/
def columnsOf (text : String) : List String :=
  ((text.toList.splitOn ',').map fun part => String.ofList (trim part)).filter (!·.isEmpty)

/-- The step that a value calls for. -/
def compile (value : String) : Except StepFault TableStep :=
  match columnsOf value with
  | [] => .error .missingColumns
  | columns => .ok { columns }

/-- The row of an event. -/
def row (step : TableStep) (event : ExtractedEvent) : Fields :=
  .ofPairs (step.columns.map fun column => (column, (event.value? column).getD ""))

/-- What becomes of a batch; one without events is dropped. -/
def pass (step : TableStep) (batch : Batch) : Option Batch :=
  if batch.events.isEmpty then none else some (.ofRows (batch.events.map step.row))

end TableStep

end LogQuery.Pipeline
