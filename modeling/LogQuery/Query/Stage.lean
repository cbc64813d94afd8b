import LogQuery.Fields

/-!
# Stages of a pipeline

A query is a chain of stages: a name, options and one positional value.  What the options and the
value mean is up to the step that bears the name.
-/

namespace LogQuery.Query

/-- The name of the stage that a query begins with when it does not say so itself. -/
def searchName : String := "search"

/-- One stage as it is written. -/
structure Stage where
  name : String
  options : Fields := ∅
  value : String := ""

namespace Stage

/-- A search stage without options. -/
def search (value : String) : Stage := { name := searchName, value }

end Stage

end LogQuery.Query
