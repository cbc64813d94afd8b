import LogQuery.Config.EngineSettings
import LogQuery.Config.Setting
import LogQuery.Decimal.Style
import LogQuery.Text.Integer
import LogQuery.Text.Lowercase
import LogQuery.Toml.Reader

/-!
# Reading the settings of the engine

Settings are written in TOML 1.1; the keys of the document are paths.  A value of one kind stands
for one of another kind where that makes sense: `"yes"` for true, `1` for `"1"`.
-/

namespace LogQuery.Config

namespace Setting

/-- How a number is written where a text is expected: always positionally. -/
def plainStyle : Decimal.Style := ⟨none, none, false⟩

/-- The setting as a text. -/
def toText? : Setting → Option String
  | .text value => some value
  | .boolean value => some (if value then "true" else "false")
  | .integer value => some (toString value)
  | .float value => some (plainStyle.write value)
  | _ => none

/-- The setting as a number that is not negative; a double is rounded and kept in the range. -/
def toNat? : Setting → Option Nat
  | .integer value => if 0 ≤ value then some value.toNat else none
  | .boolean value => some (if value then 1 else 0)
  | .float value => some value.round.toUInt64.toNat
  | .text value =>
      let word := Text.lowercase value
      if ["true", "on", "yes"].contains word then some 1
      else if ["false", "off", "no"].contains word then some 0
      else
        match Text.readInteger Text.unsigned64 value with
        | .ok number => some number.toNat
        | .error _ => none
  | _ => none

/-- The setting as a choice between yes and no. -/
def toBool? : Setting → Option Bool
  | .boolean value => some value
  | .integer value => some (value != 0)
  | .float value => some (value != 0.0)
  | .text value =>
      let word := Text.lowercase value
      if ["1", "true", "on", "yes"].contains word then some true
      else if ["0", "false", "off", "no"].contains word then some false
      else none
  | _ => none

/-- The fields of a group by name; a list gives them in the order of the names. -/
def fields? (names : List String) : Setting → Option (List (Option Setting))
  | .table entries => some (names.map fun name => (Setting.table entries).member? name)
  | .list items => some ((List.range names.length).map (items[·]?))
  | _ => none

/-- A field with a default. -/
def getOr {α : Type} (field : Option Setting) (default : α) (read : Setting → Option α) :
    Option α :=
  match field with
  | some setting => read setting
  | none => some default

end Setting

open Setting

/-- Read the settings of pipelines. -/
def PipelineSettings.ofSetting? (setting : Setting) : Option PipelineSettings := do
  let defaults : PipelineSettings := {}
  match ← setting.fields? ["pipe_buffer_size"] with
  | [size] => some { pipeBufferSize := ← getOr size defaults.pipeBufferSize toNat? }
  | _ => none

/-- Read the settings of the log. -/
def LoggingSettings.ofSetting? (setting : Setting) : Option LoggingSettings := do
  let defaults : LoggingSettings := {}
  match ← setting.fields? ["level", "json"] with
  | [level, json] =>
      some { level := ← getOr level defaults.level toText?
             json := ← getOr json defaults.json toBool? }
  | _ => none

namespace EngineSettings

/-- Read all settings. -/
def ofSetting? (setting : Setting) : Option EngineSettings := do
  let defaults : EngineSettings := {}
  let pipeline ← getOr (setting.member? "pipeline") defaults.pipeline PipelineSettings.ofSetting?
  let logging ← getOr (setting.member? "logging") defaults.logging LoggingSettings.ofSetting?
  some { pipeline, logging }

/-- Settings that are in their ranges. -/
def validated (settings : EngineSettings) : Except SettingsError EngineSettings :=
  if settings.isValid then .ok settings else .error .outOfRange

/-- Read settings in TOML. -/
def ofToml (text : String) : Except SettingsError EngineSettings :=
  match Toml.read .v11 text with
  | .ok document =>
      let setting := (Setting.ofToml document).entries.foldl
        (fun setting (key, value) => setting.put (.ofString key) value) (.table [])
      match ofSetting? setting with
      | some settings => settings.validated
      | none => .error .malformed
  | .error _ => .error .malformed

/-- The settings if there is no file, or if the file at the path is missing. -/
def withoutFile : (path : Option String) → Except SettingsError EngineSettings
  | none => validated {}
  | some path => .error (.missingFile path)

end EngineSettings

end LogQuery.Config
