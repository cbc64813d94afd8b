import LogQuery.Config.LogConfig

/-!
# Where configurations come from

A source is read again and again, and each reading shows the configuration of that moment or fails.
A source holds one configuration until it is replaced, or follows a script.
-/

namespace LogQuery.Config

/-- What one reading shows: a configuration, or why there is none. -/
abbrev Reading := Except String LogConfig

/-- Why a reading failed, in words. -/
def readingFailure (reason : String) : String :=
  s!"Configuration error: {reason}"

/-- A source of configurations. -/
inductive ConfigSource where
  /-- One configuration for every reading. -/
  | constant (config : LogConfig)
  /-- A reading for each time; the last one stands for all times after it. -/
  | script (reading : Reading) (later : List Reading)

namespace ConfigSource

/-- Read the source. -/
def read : ConfigSource → Reading × ConfigSource
  | .constant config => (.ok config, .constant config)
  | .script reading [] => (reading, .script reading [])
  | .script reading (next :: later) => (reading, .script next later)

/-- Replace the configuration; a script goes on as it is written. -/
def replace (config : LogConfig) : ConfigSource → ConfigSource
  | .constant _ => .constant config
  | .script reading later => .script reading later

end ConfigSource

end LogQuery.Config
