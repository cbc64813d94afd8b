import LogQuery.Fields
import LogQuery.Time.Instant

/-!
# Events

An event is a line of a log, with the time at which it happened and where it comes from.  On its way
through a pipeline it also carries the fields that were found in it.
-/

namespace LogQuery

open LogQuery.Time

/-- An event as it is added to a log. -/
structure NewEvent where
  raw : String
  timestamp : Instant
  host : String
  source : String
  deriving Repr, DecidableEq

/-- A stored event. -/
structure Event extends NewEvent where
  id : Int
  deriving Repr, DecidableEq

/-- An event with the fields that were found in it. -/
structure ExtractedEvent extends Event where
  fields : Fields
  deriving DecidableEq

/-- What results keep of an event. -/
structure EventRef where
  id : Int
  timestamp : Instant
  deriving Repr, DecidableEq

namespace EventRef

/-- Whether the first of two events may be shown before the second one when the newest comes first:
it is later, or of the same time and with a number that is not less. -/
def mayPrecede (first second : EventRef) : Bool :=
  if first.timestamp = second.timestamp then decide (second.id ≤ first.id)
  else decide (second.timestamp ≤ first.timestamp)

/-- References from the newest to the oldest. -/
def newestFirst (refs : List EventRef) : List EventRef :=
  refs.mergeSort mayPrecede

end EventRef

namespace Event

/-- What results keep of the event. -/
def ref (event : Event) : EventRef := ⟨event.id, event.timestamp⟩

/-- Events from the newest to the oldest. -/
def newestFirst (events : List Event) : List Event :=
  events.mergeSort fun first second => first.ref.mayPrecede second.ref

end Event

namespace ExtractedEvent

/-- The value of a field.  Three names stand for parts of the event itself. -/
def value? (event : ExtractedEvent) (name : String) : Option String :=
  if name = "_raw" then some event.raw
  else if name = "source" then some event.source
  else if name = "host" then some event.host
  else event.fields[name]?

end ExtractedEvent

end LogQuery
