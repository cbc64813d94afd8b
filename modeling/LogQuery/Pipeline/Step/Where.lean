import LogQuery.Pipeline.Batch
import LogQuery.Pipeline.Error
import LogQuery.Query.Token.Lexer
import LogQuery.Text.Lowercase

/-!
# The where step

It keeps the events and rows whose fields hold given values exactly.  Fields of events are looked up
in lower case, columns of rows as they are written, and what is missing reads as the empty text.
-/

namespace LogQuery.Pipeline

open LogQuery.Query LogQuery.Text

/-- A field and the value it has to hold. -/
structure Condition where
  field : String
  value : String
  deriving Repr, DecidableEq

namespace Condition

/-- Whether the condition holds of the fields of an event. -/
def holdsOfEvent (condition : Condition) (event : ExtractedEvent) : Bool :=
  event.fields.value (lowercase condition.field) == condition.value

/-- Whether the condition holds of a row. -/
def holdsOfRow (condition : Condition) (row : Fields) : Bool :=
  row.value condition.field == condition.value

/-- Whether a condition may stand in front of another one: by field, then by value. -/
def mayPrecede (first second : Condition) : Bool :=
  if first.field = second.field then first.value ≤ second.value else first.field ≤ second.field

/-- Conditions in order. -/
def sorted (conditions : List Condition) : List Condition :=
  conditions.mergeSort mayPrecede

/-- Whether a token can name the field of a condition. -/
def isField (token : Token) : Bool :=
  token.isValue || token.kind.isKeyword

/-- The conditions that tokens spell: a field, an equals sign right behind it, and a value that goes
on to the next white space. -/
def ofTokens (tokens : List Token) : Except StepFault (List Condition) :=
  match _skipped : skipBlanks tokens with
  | [] => .ok []
  | field :: rest =>
      match rest with
      | sign :: rest =>
          if isField field && sign.kind == .equals then do
            let value := rest.takeWhile (!·.isBlank)
            let conditions ← ofTokens (rest.dropWhile (!·.isBlank))
            .ok (⟨field.text, String.join (value.map (·.text))⟩ :: conditions)
          else .error (.noCondition field.text)
      | [] => .error (.noCondition field.text)
termination_by tokens.length
decreasing_by
  have skipped_le := length_skipBlanks_le tokens
  have left_le := (rest.dropWhile_sublist (!Token.isBlank ·)).length_le
  rw [_skipped] at skipped_le
  simp only [List.length_cons] at skipped_le
  omega

end Condition

/-- Conditions that hold at once. -/
structure WhereStep where
  conditions : List Condition
  deriving Repr, DecidableEq

namespace WhereStep

/-- The name of the step. -/
def stepName : String := "where"

/-- The step that options and a value call for.  Every option is a condition, and the conditions
are put in order. -/
def compile (value : String) (options : Fields) : Except StepFault WhereStep := do
  let tokens ← (tokenize value).mapError .unreadableConditions
  let conditions ← Condition.ofTokens (beforeEnd tokens)
  match options.toList.map (fun (field, value) => ⟨field, value⟩) ++ conditions with
  | [] => .error .missingConditions
  | conditions => .ok { conditions := Condition.sorted conditions }

/-- Whether an event is kept. -/
def keepsEvent (step : WhereStep) (event : ExtractedEvent) : Bool :=
  step.conditions.all (·.holdsOfEvent event)

/-- Whether a row is kept. -/
def keepsRow (step : WhereStep) (row : Fields) : Bool :=
  step.conditions.all (·.holdsOfRow row)

/-- What becomes of a batch; one of which nothing is left is dropped. -/
def pass (step : WhereStep) (batch : Batch) : Option Batch :=
  let kept : Batch :=
    { events := batch.events.filter step.keepsEvent, rows := batch.rows.filter step.keepsRow }
  if kept.isEmpty then none else some kept

end WhereStep

end LogQuery.Pipeline
