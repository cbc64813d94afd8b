import LogQuery.Fields
import LogQuery.Regex.Search

/-!
# Fields from regular expressions

Each match of an expression gives fields.  If all its groups have names, each group gives the field
of its name; if there are two groups otherwise, the first one holds a name and the second one its
value.  Any other expression gives nothing.
-/

namespace LogQuery.Extraction

/-- Set the field of each named group; a group that took no part gives the empty text. -/
def addNamed (fields : Fields) (names : List String) (groups : List (Option String)) : Fields :=
  (names.zip groups).foldl (fun fields (name, group) => fields.insert name (group.getD "")) fields

/-- Set the field that the first of two groups names. -/
def addPair (fields : Fields) : List (Option String) → Fields
  | [name, value] => fields.insert (name.getD "") (value.getD "")
  | _ => fields

/-- Set the fields that one expression finds in a text. -/
def addMatches (text : String) (fields : Fields) (regex : Regex) : Fields :=
  match regex.groupNames.mapM id with
  | some names => (regex.captures text).foldl (addNamed · names ·) fields
  | none => (regex.captures text).foldl addPair fields

/-- The fields that expressions find in a text; a later match overrides an earlier one. -/
def fieldsByRegex (extractors : List Regex) (text : String) : Fields :=
  extractors.foldl (addMatches text) ∅

end LogQuery.Extraction
