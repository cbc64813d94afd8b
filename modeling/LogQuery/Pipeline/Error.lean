import LogQuery.Pipeline.Type
import LogQuery.Query.Error
import LogQuery.Text.Integer

/-!
# What can be wrong with a pipeline

A pipeline can fail to compile because its text is no query, because a step cannot make sense of its
options and value, or because its steps do not fit together.  Only the last two causes of
`CompileError` lie with the steps that are registered and not with the query.
-/

namespace LogQuery.Pipeline

open LogQuery.Query LogQuery.Text

/-- Why a step cannot make sense of its options and value. -/
inductive StepFault where
  | invalidTime (option value : String)
  | missingExpression
  | invalidExpression
  | unreadableConditions (error : QueryError)
  | noCondition (found : String)
  | missingConditions
  | missingColumns
  | missingEventId
  | invalidEventId (value : String) (error : IntegerError)
  | invalidCount (value : String) (error : IntegerError)
  deriving Repr, DecidableEq

namespace StepFault

/-- The step that has the fault. -/
def step : StepFault → String
  | .invalidTime _ _ => "search"
  | .missingExpression | .invalidExpression => "rex"
  | .unreadableConditions _ | .noCondition _ | .missingConditions => "where"
  | .missingColumns => "table"
  | .missingEventId | .invalidEventId _ _ | .invalidCount _ _ => "surrounding"

/-- The wording of the fault. -/
def message : StepFault → String
  | .invalidTime option value => s!"invalid {option} '{value}'"
  | .missingExpression => "a regular expression is required"
  | .invalidExpression => "invalid regular expression"
  | .unreadableConditions error => error.message
  | .noCondition found => s!"expected a key=value condition, got '{found}'"
  | .missingConditions => "at least one condition is required"
  | .missingColumns => "at least one field is required"
  | .missingEventId => "eventId must be provided"
  | .invalidEventId value error => s!"eventId '{value}' is not an integer: {error.message}"
  | .invalidCount value error =>
      s!"count '{value}' is not a non-negative integer: {error.message}"

end StepFault

/-- Why a query does not compile. -/
inductive CompileError where
  | query (error : QueryError)
  | unknownStep (name : String)
  | step (fault : StepFault)
  /-- A step reads what the step before it does not give. -/
  | typeMismatch (before reader : String) (expected actual : PipeType)
  /-- The last step gives nothing. -/
  | noOutput (last : String)
  /-- No step reads events, and there is no step for searches. -/
  | noSearchStep
  /-- A step propagates on one side only. -/
  | halfPropagating (name : String) (input output : DeclaredType)
  deriving Repr, DecidableEq

namespace CompileError

/-- Whether the query is at fault rather than the registered steps. -/
def isOfQuery : CompileError → Bool
  | .noSearchStep | .halfPropagating _ _ _ => false
  | _ => true

/-- The wording of the error. -/
def message : CompileError → String
  | .query error => error.message
  | .unknownStep name => s!"Unknown step: {name}"
  | .step fault => s!"Failed to compile step '{fault.step}': {fault.message}"
  | .typeMismatch before reader expected actual =>
      s!"Type mismatch after step '{before}': expected {expected.describe} " ++
        s!"(input of '{reader}'), got {actual.describe}"
  | .noOutput last => s!"Invalid pipeline output: last step '{last}' produces no output"
  | .noSearchStep =>
      "Internal error: pipeline has no generator and no search step is registered"
  | .halfPropagating name input output =>
      s!"Internal error: step '{name}' declares input {input.describe} and output " ++
        s!"{output.describe}; propagate must be used on both sides"

end CompileError

end LogQuery.Pipeline
