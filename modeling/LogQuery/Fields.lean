import Std.Data.ExtTreeMap

/-!
# Fields

Named values: what is extracted from an event, the options of a pipeline stage, and the cells of a
table row.  Two sets of fields are equal when they hold the same value under every name.
-/

namespace LogQuery

/-- Values by name, in ascending order of the names. -/
abbrev Fields := Std.ExtTreeMap String String compare

namespace Fields

/-- The value under a name, or the empty text. -/
def value (fields : Fields) (name : String) : String :=
  fields[name]?.getD ""

/-- The fields of a list of pairs; of two with the same name the later one counts. -/
def ofPairs (pairs : List (String × String)) : Fields :=
  pairs.foldl (fun fields pair => fields.insert pair.1 pair.2) ∅

/-- All fields of both; where they share a name the second one counts. -/
def override (fields others : Fields) : Fields :=
  others.foldl (fun fields name value => fields.insert name value) fields

end Fields

end LogQuery
