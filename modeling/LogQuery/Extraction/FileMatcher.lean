import LogQuery.Extraction.FileParser
import LogQuery.Wildcard.Glob
import LogQuery.Wildcard.Limit

/-!
# Parsers by source

Each entry of a configuration names files and gives them a parser.  An entry whose types cannot be
merged, or whose glob is too large to search for, is left out; of several that name a source the
first one counts.
-/

namespace LogQuery.Extraction

open LogQuery.Config

/-- Globs and the parsers of the files they name. -/
structure FileMatcher where
  entries : List (String × FileParser)

namespace FileMatcher

/-- The entries of a configuration that have a parser. -/
def ofConfig (config : LogConfig) : FileMatcher where
  entries := (config.files.filter fun entry => Wildcard.globFits entry.fileName).filterMap
    fun entry =>
      match FileParser.merge entry.fileName (config.typesOf entry) with
      | .ok parser => some (entry.fileName, parser)
      | .error _ => none

/-- Whether no source has a parser. -/
def isEmpty (files : FileMatcher) : Bool :=
  files.entries.isEmpty

/-- The parser for a source. -/
def parserFor? (files : FileMatcher) (source : String) : Option FileParser :=
  (files.entries.find? fun entry => Wildcard.globMatches entry.1 source).map (·.2)

end FileMatcher

end LogQuery.Extraction
