import Std.Data.ExtTreeMap

/-!
# Configuration of log files

Which files are read, and how fields are extracted from their events.  A file names file types; the
type called `DEFAULT` belongs to every file, and it exists even if the configuration has none of
that name.
-/

namespace LogQuery.Config

/-- How the events of a file are taken apart. -/
inductive ParserSettings where
  | regex (eventDelimiter : String) (fieldExtractors : List String) (timeField : String)
  | json (eventDelimiter timeField : String)
  deriving Repr, DecidableEq

/-- The field that holds the time of an event. -/
def ParserSettings.timeField : ParserSettings → String
  | .regex _ _ timeField => timeField
  | .json _ timeField => timeField

/-- A way of reading events, under the name by which files refer to it. -/
structure FileType where
  name : String
  timeLayout : String
  parser : ParserSettings
  deriving Repr, DecidableEq

/-- Files that match a glob, and the types they are read with. -/
structure FileEntry where
  fileName : String
  fileTypes : List String := []
  deriving Repr, DecidableEq

/-- A configuration.  Of several entries that match a file the first one counts. -/
structure LogConfig where
  files : List FileEntry := []
  fileTypes : Std.ExtTreeMap String FileType compare := ∅

/-- The name of the type that belongs to every file. -/
def defaultTypeName : String := "DEFAULT"

/-- What separates events unless a type says otherwise. -/
def defaultDelimiter : String := "\n"

/-- The time field unless a type says otherwise. -/
def defaultTimeField : String := "_time"

/-- How times are laid out unless a type says otherwise. -/
def defaultTimeLayout : String := "%Y/%m/%d %H:%M:%S"

namespace FileType

/-- Whether the type yields to others of a different kind. -/
def isDefault (type : FileType) : Bool :=
  type.name == defaultTypeName

/-- The type that stands in for a missing `DEFAULT`: pairs of words around an equals sign, and a
time at the start of the event. -/
def builtin : FileType where
  name := defaultTypeName
  timeLayout := defaultTimeLayout
  parser := .regex defaultDelimiter
    ["(\\w+)=(\\w+)",
      "^(?P<_time>\\d\\d\\d\\d/\\d\\d/\\d\\d \\d\\d:\\d\\d:\\d\\d\\.\\d\\d\\d\\d\\d\\d)"]
    defaultTimeField

end FileType

namespace LogConfig

/-- One entry that matches every file. -/
def everyFile : LogConfig := { files := [{ fileName := "**" }] }

/-- The type with a name. -/
def fileType? (config : LogConfig) (name : String) : Option FileType :=
  match config.fileTypes[name]? with
  | some type => some type
  | none => if name == defaultTypeName then some .builtin else none

/-- The types of an entry that the configuration knows, `DEFAULT` last. -/
def typesOf (config : LogConfig) (entry : FileEntry) : List FileType :=
  (entry.fileTypes ++ [defaultTypeName]).filterMap config.fileType?

end LogConfig

end LogQuery.Config
