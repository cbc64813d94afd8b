import LogQuery.Event
import LogQuery.Query.Search.Matching
import LogQuery.SortMode

/-!
# Stores of events

A store numbers its events from one, in the order in which they are added.  It is read in three
ways: page by page from the newest event that a search may find, around one event, and by numbers.
-/

namespace LogQuery

open LogQuery.Query LogQuery.Time

/-- An optional first and last instant, both included. -/
structure TimeRange where
  start? : Option Instant := none
  stop? : Option Instant := none
  deriving Repr, DecidableEq

/-- Whether an instant lies in the range. -/
def TimeRange.contains (range : TimeRange) (instant : Instant) : Bool :=
  range.start?.all (decide <| · ≤ instant) && range.stop?.all (decide <| instant ≤ ·)

/-- There is no event with this number. -/
structure UnknownEvent where
  id : Int
  deriving Repr, DecidableEq

/-- The wording of the error. -/
def UnknownEvent.message (error : UnknownEvent) : String :=
  s!"event {error.id} not found"

/-- Events in the order of their numbers, and how many of them make a page. -/
structure EventStore where
  added : List NewEvent := []
  pageSize : Nat := 500
  pageSize_pos : 0 < pageSize := by decide

namespace EventStore

/-- A store without events; a page holds at least one. -/
def empty (pageSize : Nat) : EventStore where
  pageSize := max pageSize 1
  pageSize_pos := Nat.lt_of_lt_of_le Nat.zero_lt_one (Nat.le_max_right pageSize 1)

/-- How many events there are. -/
def size (store : EventStore) : Nat :=
  store.added.length

/-- The event at a position. -/
def numbered (event : NewEvent) (index : Nat) : Event :=
  { event with id := index + 1 }

/-- All events by number. -/
def events (store : EventStore) : List Event :=
  store.added.mapIdx fun index event => numbered event index

/-- The event with a number. -/
def get? (store : EventStore) (id : Int) : Option Event :=
  store.events.find? (·.id = id)

/-- Add an event; its number is returned. -/
def add (store : EventStore) (event : NewEvent) : Int × EventStore :=
  (store.size + 1, { store with added := store.added ++ [event] })

/-- Cut a list into pages of one size, the last of which may be shorter. -/
def paginate {α : Type} (size : Nat) (size_pos : 0 < size) (items : List α) : List (List α) :=
  match items with
  | [] => []
  | item :: rest =>
      (item :: rest).take size :: paginate size size_pos ((item :: rest).drop size)
termination_by items.length
decreasing_by
  simp only [List.length_drop, List.length_cons]
  omega

/-- The events that a search may find in a time range, from the newest to the oldest. -/
def candidates (store : EventStore) (search : Search) (range : TimeRange) : List Event :=
  Event.newestFirst <| store.events.filter fun event =>
    range.contains event.timestamp && search.admits event.source event.host

/-- The same events page by page. -/
def pages (store : EventStore) (search : Search) (range : TimeRange) : List (List Event) :=
  paginate store.pageSize store.pageSize_pos (store.candidates search range)

/-- The events of the same source around an event, from the newest to the oldest.  Half of `count`
may be newer than the event; the event and older ones make up the other half. -/
def surrounding (store : EventStore) (id : Int) (count : Nat) :
    Except UnknownEvent (List Event) :=
  match store.get? id with
  | none => .error ⟨id⟩
  | some target =>
      let sameSource := Event.newestFirst (store.events.filter (·.source = target.source))
      let position := sameSource.findIdx (·.id = id)
      let half := count / 2
      .ok ((sameSource.take (position + half)).drop (position - half))

/-- The events with these numbers, one for each number that is known. -/
def byIds (store : EventStore) (ids : List Int) (mode : SortMode) : List Event :=
  let found := ids.filterMap store.get?
  match mode with
  | .newestFirst => Event.newestFirst found
  | .unsorted => found.mergeSort fun first second => decide (first.id ≤ second.id)
  | .asGiven => found

end EventStore

end LogQuery
