/-!
# Settings of the engine

How many batches may wait between two steps of a pipeline, and what is logged.
-/

namespace LogQuery.Config

/-- Settings of pipelines. -/
structure PipelineSettings where
  /-- The number of batches that may wait between two steps. -/
  pipeBufferSize : Nat := 100
  deriving Repr, DecidableEq

/-- Settings of the log. -/
structure LoggingSettings where
  /-- Which messages are logged. -/
  level : String := "info"
  /-- Whether messages are written as JSON. -/
  json : Bool := false
  deriving Repr, DecidableEq

/-- All settings of the engine. -/
structure EngineSettings where
  pipeline : PipelineSettings := {}
  logging : LoggingSettings := {}
  deriving Repr, DecidableEq

/-- Why there are no settings. -/
inductive SettingsError where
  | malformed
  | outOfRange
  | missingFile (path : String)
  deriving Repr, DecidableEq

/-- The wording of the error. -/
def SettingsError.message : SettingsError → String
  | .malformed => "配置文件格式错误"
  | .outOfRange => "配置验证失败"
  | .missingFile path => s!"配置文件不存在: {path}"

/-- Whether all settings are in their ranges. -/
def EngineSettings.isValid (settings : EngineSettings) : Bool :=
  let size := settings.pipeline.pipeBufferSize
  let length := settings.logging.level.length
  1 ≤ size && size ≤ 100000 && 1 ≤ length && length ≤ 500

end LogQuery.Config
