/-!
# Orders of results
-/

namespace LogQuery

/-- The order in which the results of a query are shown. -/
inductive SortMode where
  /-- No order is asked for. -/
  | unsorted
  /-- The newest event first. -/
  | newestFirst
  /-- The order in which events were asked for. -/
  | asGiven
  deriving Repr, DecidableEq

end LogQuery
