import LogQuery.Event.Store
import LogQuery.Pipeline.Type

/-!
# Jobs

A job is a query that runs on its own.  Its record says what was asked and how far it is.
-/

namespace LogQuery

open LogQuery.Pipeline

/-- How far a job is. -/
inductive JobState where
  | running
  /-- All results are there. -/
  | finished
  | aborted
  /-- The job has ended, but some step failed on the way. -/
  | partialFailure
  deriving Repr, DecidableEq

namespace JobState

/-- Whether a job in this state has ended. -/
def isTerminal (state : JobState) : Bool :=
  state != .running

/-- How messages name the state. -/
def describe : JobState → String
  | .running => "Running"
  | .finished => "Finished"
  | .aborted => "Aborted"
  | .partialFailure => "PartialFailure"

end JobState

/-- What is known of a job when it starts. -/
structure NewJob where
  query : String
  range : TimeRange
  sortMode : SortMode
  outputType : PipeType
  columns : List String
  deriving Repr, DecidableEq

/-- A stored job. -/
structure Job extends NewJob where
  id : Int
  state : JobState
  deriving Repr, DecidableEq

/-- A row among the results of a job. -/
structure TableRow where
  number : Int
  values : Fields
  deriving DecidableEq

/-- Numbers that sum up a job. -/
structure JobStats where
  /-- One for a job that has ended, zero for any other. -/
  estimatedProgress : Nat
  matchedEvents : Int
  /-- How many values each field has. -/
  fieldOccurrences : List (String × Nat)
  deriving Repr, DecidableEq

end LogQuery
