import LogQuery.Fields
import LogQuery.Json.Printer
import LogQuery.Json.Reader

/-!
# Fields from JSON

An event that is a JSON object has a field for each member.  A text is taken as it is, and any other
value as it is written.
-/

namespace LogQuery.Extraction

/-- Why an event has no members. -/
inductive JsonError where
  | notJson
  | notObject
  deriving Repr, DecidableEq

/-- The wording of the error. -/
def JsonError.message : JsonError → String
  | .notJson => "event is not valid JSON"
  | .notObject => "JSON event is not an object"

/-- The text of a member. -/
def memberText : Json → String
  | .string value => value
  | value => value.write

/-- The fields of an event that is written in JSON; of two members with one name the later one
counts. -/
def fieldsByJson (text : String) : Except JsonError Fields :=
  match Json.read? text with
  | some (.object members) =>
      if (Json.object members).isReadable then
        .ok (.ofPairs (members.map fun (name, value) => (name, memberText value)))
      else .error .notJson
  | some value => if value.isReadable then .error .notObject else .error .notJson
  | none => .error .notJson

end LogQuery.Extraction
