import LogQuery.Config.LogConfig
import LogQuery.Event
import LogQuery.Extraction.Json
import LogQuery.Extraction.Regex
import LogQuery.Text.Lowercase

/-!
# Parsers of files

The types of a file are merged into one parser.  Regular expressions add up, in the order of the
types; the first type says which field holds the time.  Regular expressions and JSON exclude each
other, but the type `DEFAULT` gives way instead of standing in conflict.
-/

namespace LogQuery.Extraction

open LogQuery.Config

/-- How the fields of events are found. -/
inductive Method where
  | regex (extractors : List Regex)
  | json
  deriving DecidableEq

/-- A parser of the events of a file. -/
structure FileParser where
  method : Method
  /-- The field that holds the time of an event. -/
  timeField : String
  deriving DecidableEq

/-- Why types make no parser. -/
inductive MergeError where
  | mixedKinds (file : String)
  | noFileTypes (file : String)
  deriving Repr, DecidableEq

/-- The wording of the error. -/
def MergeError.message : MergeError → String
  | .mixedKinds file =>
      s!"conflicting parser types for file '{file}': " ++
        "a file cannot mix JSON and regex file types"
  | .noFileTypes file => s!"no file types could be resolved for file '{file}'"

/-- The patterns that are regular expressions. -/
def compilable (patterns : List String) : List Regex :=
  patterns.filterMap fun pattern => (Regex.compile pattern).toOption

/-- The name under which the time of an event is found whatever its parser. -/
def timeName : String := "_time"

namespace FileParser

/-- The parser of one type alone. -/
def ofFileType (type : FileType) : FileParser where
  method :=
    match type.parser with
    | .regex _ patterns _ => .regex (compilable patterns)
    | .json _ _ => .json
  timeField := type.parser.timeField

/-- Merge one more type into a parser. -/
def add (file : String) (parser : FileParser) (type : FileType) :
    Except MergeError FileParser :=
  match parser.method, type.parser with
  | .regex extractors, .regex _ patterns _ =>
      .ok { parser with method := .regex (extractors ++ compilable patterns) }
  | .json, .json _ _ => .ok parser
  | _, _ => if type.isDefault then .ok parser else .error (.mixedKinds file)

/-- Merge the types of a file. -/
def merge (file : String) : List FileType → Except MergeError FileParser
  | [] => .error (.noFileTypes file)
  | type :: types => types.foldlM (add file) (ofFileType type)

/-- Also store the time of an event under the name that does not depend on the parser. -/
def nameTime (parser : FileParser) (fields : Fields) : Fields :=
  match fields[parser.timeField]? with
  | some time => fields.insert timeName time
  | none => fields

/-- Find the fields in a text. -/
def extract (parser : FileParser) (text : String) : Except JsonError Fields :=
  match parser.method with
  | .regex extractors => .ok (parser.nameTime (fieldsByRegex extractors text))
  | .json => (fieldsByJson text).map parser.nameTime

/-- The fields of an event: what is found in its text in lower case, and where it comes from.  A
text that cannot be parsed has no fields of its own. -/
def fieldsOf (parser : FileParser) (event : Event) : Fields :=
  let found := (parser.extract (Text.lowercase event.raw)).toOption.getD ∅
  (found.insert "host" event.host).insert "source" event.source

/-- An event with its fields. -/
def apply (parser : FileParser) (event : Event) : ExtractedEvent :=
  { event with fields := parser.fieldsOf event }

end FileParser

end LogQuery.Extraction
