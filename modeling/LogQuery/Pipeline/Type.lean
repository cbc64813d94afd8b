/-!
# Types of pipelines

What flows between two steps.  A step says what it reads and what it gives, or that it gives on
whatever it gets.
-/

namespace LogQuery.Pipeline

/-- What flows through a pipe. -/
inductive PipeType where
  /-- Nothing, as before the first step. -/
  | nothing
  | events
  | table
  deriving Repr, DecidableEq

/-- How messages name the type. -/
def PipeType.describe : PipeType → String
  | .nothing => "none"
  | .events => "events"
  | .table => "table"

/-- What a step declares of one of its sides. -/
inductive DeclaredType where
  | fixed (type : PipeType)
  /-- The type that comes from the step before. -/
  | propagate
  deriving Repr, DecidableEq

/-- How messages name the declaration. -/
def DeclaredType.describe : DeclaredType → String
  | .fixed type => type.describe
  | .propagate => "propagate"

/-- The types on both sides of a step in a pipeline. -/
structure PipeTypes where
  input : PipeType
  output : PipeType
  deriving Repr, DecidableEq

end LogQuery.Pipeline
