import LogQuery.Text.Lowercase
import Std.Data.ExtTreeMap
import Std.Data.ExtTreeSet

/-!
# Searches

A search is a conjunction of conditions on the text of an event and on its fields.  It is built from
clauses, which are applied from left to right: a later `=` or `IN` replaces what a field may hold,
while `!=` and `NOT IN` add to what it may not hold.  When all clauses are applied, what the search
says of sources and hosts is stored once more by itself, for the stores of events to look at.
-/

namespace LogQuery.Query

open LogQuery.Text

/-- A set of texts. -/
abbrev TextSet := Std.ExtTreeSet String compare

/-- Lists of values by field name. -/
abbrev FieldValues := Std.ExtTreeMap String (List String) compare

/-- One clause of a search, with the field named as it is written. -/
inductive Clause where
  | fragment (text : String)
  | notFragment (text : String)
  | equals (field value : String)
  | notEquals (field value : String)
  | oneOf (field : String) (values : List String)
  | noneOf (field : String) (values : List String)
  deriving Repr, DecidableEq

/-- What clauses come to.  Field names are in lower case. -/
structure SearchConditions where
  /-- Fragments that the text has to hold. -/
  fragments : TextSet := ∅
  /-- Fragments that the text must not hold. -/
  notFragments : TextSet := ∅
  /-- What a field has to match one of. -/
  fields : FieldValues := ∅
  /-- What a field must not match any of. -/
  notFields : FieldValues := ∅

namespace FieldValues

/-- Add values after those that a field has already. -/
def append (map : FieldValues) (field : String) (values : List String) : FieldValues :=
  map.alter field fun old => some (old.getD [] ++ values)

/-- The values of a field as a set. -/
def valuesOf (map : FieldValues) (field : String) : TextSet :=
  Std.ExtTreeSet.ofList (map[field]?.getD []) compare

end FieldValues

/-- Apply one more clause. -/
def SearchConditions.add (conditions : SearchConditions) : Clause → SearchConditions
  | .fragment text => { conditions with fragments := conditions.fragments.insert text }
  | .notFragment text => { conditions with notFragments := conditions.notFragments.insert text }
  | .equals field value =>
      { conditions with fields := conditions.fields.insert (lowercase field) [value] }
  | .notEquals field value =>
      { conditions with
        notFields := FieldValues.append conditions.notFields (lowercase field) [value] }
  | .oneOf field values =>
      { conditions with fields := conditions.fields.insert (lowercase field) values }
  | .noneOf field values =>
      { conditions with
        notFields := FieldValues.append conditions.notFields (lowercase field) values }

/-- The conditions of a search.  Those on sources and hosts are stored a second time, as sets. -/
structure Search extends SearchConditions where
  /-- The sources that the search asks for. -/
  sources : TextSet := FieldValues.valuesOf fields "source"
  /-- The sources that the search excludes. -/
  notSources : TextSet := FieldValues.valuesOf notFields "source"
  /-- The hosts that the search asks for. -/
  hosts : TextSet := FieldValues.valuesOf fields "host"
  /-- The hosts that the search excludes. -/
  notHosts : TextSet := FieldValues.valuesOf notFields "host"
  sources_eq : sources = FieldValues.valuesOf fields "source" := by rfl
  notSources_eq : notSources = FieldValues.valuesOf notFields "source" := by rfl
  hosts_eq : hosts = FieldValues.valuesOf fields "host" := by rfl
  notHosts_eq : notHosts = FieldValues.valuesOf notFields "host" := by rfl

namespace Search

/-- The search of several clauses: all of them are applied, then sources and hosts are stored. -/
def ofClauses (clauses : List Clause) : Search :=
  { toSearchConditions := clauses.foldl .add {} }

/-- Whether there is no condition at all. -/
def isEmpty (search : Search) : Bool :=
  search.fragments.isEmpty && search.notFragments.isEmpty && search.fields.isEmpty &&
    search.notFields.isEmpty

end Search

end LogQuery.Query
