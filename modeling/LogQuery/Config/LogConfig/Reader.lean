import LogQuery.Config.Document
import LogQuery.Config.LogConfig
import LogQuery.Json.Reader
import LogQuery.Toml.Reader

/-!
# Reading a configuration

A configuration is written in JSON or TOML 1.0.  What is missing takes its default, and what is not
known is skipped; a value of the wrong kind makes the configuration invalid.
-/

namespace LogQuery.Config

open Document

/-- The kind of a parser, which stands under `type` or first in a list, and what is left. -/
def Document.kindAndRest? : Document → Option (Document × Document)
  | .table entries =>
      match entries.filter (·.1 == "type") with
      | [(_, kind)] => some (kind, .table (entries.filter (·.1 != "type")))
      | _ => none
  | .list (kind :: items) => some (kind, .list items)
  | _ => none

/-- Read the parser of a file type.  Every part of it has to be readable, known or not. -/
def ParserSettings.ofDocument? (document : Document) : Option ParserSettings := do
  if !document.isReadable then none
  let (kind, rest) ← document.kindAndRest?
  match ← kind.text? with
  | "regex" =>
      match ← rest.fields? .refused ["eventDelimiter", "fieldExtractors", "timeField"] with
      | [delimiter, extractors, time] =>
          some (.regex (← getOr delimiter defaultDelimiter text?) (← getOr extractors [] texts?)
            (← getOr time defaultTimeField text?))
      | _ => none
  | "json" =>
      match ← rest.fields? .refused ["eventDelimiter", "timeField"] with
      | [delimiter, time] =>
          some (.json (← getOr delimiter defaultDelimiter text?)
            (← getOr time defaultTimeField text?))
      | _ => none
  | _ => none

/-- Read a file type. -/
def FileType.ofDocument? (surplus : Surplus) (document : Document) : Option FileType := do
  match ← document.fields? surplus ["name", "timeLayout", "parser"] with
  | [some name, layout, some parser] =>
      some { name := ← name.text?
             timeLayout := ← getOr layout defaultTimeLayout text?
             parser := ← ParserSettings.ofDocument? parser }
  | _ => none

/-- Read an entry for files. -/
def FileEntry.ofDocument? (surplus : Surplus) (document : Document) : Option FileEntry := do
  match ← document.fields? surplus ["fileName", "fileTypes"] with
  | [some fileName, fileTypes] =>
      some { fileName := ← fileName.text?, fileTypes := ← getOr fileTypes [] texts? }
  | _ => none

namespace LogConfig

/-- Read the list of file entries. -/
def files? (surplus : Surplus) : Document → Option (List FileEntry)
  | .list items => items.mapM (FileEntry.ofDocument? surplus)
  | _ => none

/-- Read the file types by name; of two with one name the later one counts. -/
def fileTypes? (surplus : Surplus) :
    Document → Option (Std.ExtTreeMap String FileType compare)
  | .table entries => do
      let types ← entries.mapM fun (name, document) => do
        some (name, ← FileType.ofDocument? surplus document)
      some (types.foldl (fun map (name, type) => map.insert name type) ∅)
  | _ => none

/-- Read a configuration. -/
def ofDocument? (surplus : Surplus) (document : Document) : Option LogConfig := do
  match ← document.fields? surplus ["files", "fileTypes"] with
  | [files, fileTypes] =>
      some { files := ← getOr files [] (files? surplus)
             fileTypes := ← getOr fileTypes ∅ (fileTypes? surplus) }
  | _ => none

/-- Read a configuration in JSON, where a list may not be longer than its record. -/
def ofJson? (text : String) : Option LogConfig := do
  ofDocument? .refused (.ofJson (← Json.read? text))

/-- Read a configuration in TOML, where further items of a list are ignored. -/
def ofToml? (text : String) : Option LogConfig :=
  match Toml.read .v10 text with
  | .ok document => ofDocument? .ignored (.ofToml document)
  | .error _ => none

end LogConfig

end LogQuery.Config
