import LogQuery.Fields

/-!
# Histograms of field values

A histogram counts how often each field has each value.  Counting two lists one after the other and
counting them together come to the same.
-/

namespace LogQuery

/-- How often a field has a value. -/
structure FieldCount where
  field : String
  value : String
  occurrences : Int
  deriving Repr, DecidableEq

/-- Counts by field and value. -/
abbrev Histogram := Std.ExtTreeMap String (Std.ExtTreeMap String Int compare) compare

namespace Histogram

/-- The counts of a field by value. -/
def valuesOf (histogram : Histogram) (field : String) : Std.ExtTreeMap String Int compare :=
  histogram[field]?.getD ∅

/-- Add to the count of a value. -/
def add (histogram : Histogram) (count : FieldCount) : Histogram :=
  let values := valuesOf histogram count.field
  histogram.insert count.field
    (values.insert count.value (values.getD count.value 0 + count.occurrences))

/-- Add to the counts of several values. -/
def addAll (histogram : Histogram) (counts : List FieldCount) : Histogram :=
  counts.foldl add histogram

/-- One occurrence of each value among some fields. -/
def countsOf (fields : Fields) : List FieldCount :=
  fields.toList.map fun (field, value) => ⟨field, value, 1⟩

/-- Count the values in a list. -/
def ofFields (maps : List Fields) : Histogram :=
  maps.foldl (fun histogram fields => addAll histogram (countsOf fields)) ∅

/-- All counts, by field and then by value. -/
def toCounts (histogram : Histogram) : List FieldCount :=
  histogram.toList.flatMap fun (field, values) =>
    values.toList.map fun (value, occurrences) => ⟨field, value, occurrences⟩

/-- How many values each field has. -/
def fieldOccurrences (histogram : Histogram) : List (String × Nat) :=
  histogram.toList.map fun (field, values) => (field, values.size)

end Histogram

end LogQuery
