import LogQuery.Config.Source
import LogQuery.Event.Store

/-!
# What flows through a pipeline

Events and rows travel in batches.  A step that begins a pipeline emits batches, and may also fail
on the way; whatever it emitted before that stays.
-/

namespace LogQuery.Pipeline

open LogQuery.Config

/-- Events or rows of a table that travel together. -/
structure Batch where
  events : List ExtractedEvent := []
  rows : List Fields := []
  deriving DecidableEq

namespace Batch

/-- A batch of events. -/
def ofEvents (events : List ExtractedEvent) : Batch := { events }

/-- A batch of rows. -/
def ofRows (rows : List Fields) : Batch := { rows }

/-- Whether the batch holds nothing. -/
def isEmpty (batch : Batch) : Bool :=
  batch.events.isEmpty && batch.rows.isEmpty

end Batch

/-- A failure of a step while the pipeline runs. -/
structure StepFailure where
  step : String
  message : String
  deriving Repr, DecidableEq

/-- A step could not read the configuration. -/
def StepFailure.ofReading (step reason : String) : StepFailure where
  step := step
  message := s!"failed to read config: {readingFailure reason}"

/-- Where steps read from. -/
structure Sources where
  events : EventStore
  configs : ConfigSource

/-- What has come out of a pipeline, or out of one of its steps. -/
structure Emission where
  batches : List Batch
  failures : List StepFailure
  /-- The configurations that are left to read. -/
  configs : ConfigSource
  /-- Whether a step has read its stream of events to the end, and would read on if there were
  more. -/
  exhausted : Bool

namespace Emission

/-- Nothing comes out. -/
def nothing (configs : ConfigSource) : Emission where
  batches := []
  failures := []
  configs := configs
  exhausted := false

/-- A step fails before anything comes out. -/
def failure (failure : StepFailure) (configs : ConfigSource) : Emission where
  batches := []
  failures := [failure]
  configs := configs
  exhausted := false

/-- One batch comes out first. -/
def prepend (batch : Batch) (emission : Emission) : Emission :=
  { emission with batches := batch :: emission.batches }

end Emission

end LogQuery.Pipeline
