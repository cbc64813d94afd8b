import LogQuery.Config.EngineSettings
import LogQuery.Extraction.FileParser
import LogQuery.Job.Registry
import LogQuery.Job.Store
import LogQuery.Pipeline.Registry

/-!
# Failures

Whatever can go wrong when the library is used, with the full wording of the message.
-/

namespace LogQuery

open LogQuery.Config LogQuery.Extraction LogQuery.Pipeline LogQuery.Query

/-- Why something cannot be done. -/
inductive Failure where
  | compile (error : CompileError)
  | duplicateStep (error : DuplicateStep)
  | event (error : JsonError)
  | fileTypes (error : MergeError)
  | settings (error : SettingsError)
  | logConfig
  | unknownEvent (error : UnknownEvent)
  | store (error : StoreError)
  | jobNotFound (id : Int)
  /-- A job is not registered, and its record cannot be looked at. -/
  | jobUnverified (id : Int) (error : StoreError)
  | registry (error : RegistryError)
  deriving Repr, DecidableEq

namespace Failure

/-- A query that cannot be read. -/
def ofQuery (error : QueryError) : Failure := .compile (.query error)

/-- Whether a query is at fault. -/
def isOfQuery : Failure → Bool
  | .compile error => error.isOfQuery
  | _ => false

/-- The wording of the failure. -/
def message : Failure → String
  | .compile error => error.message
  | .duplicateStep error => s!"Validation error: {error.message}"
  | .event error => s!"Validation error: {error.message}"
  | .fileTypes error => s!"Configuration error: {error.message}"
  | .settings error => s!"Configuration error: {error.message}"
  | .logConfig => "Configuration error: invalid log config"
  | .unknownEvent error => s!"Repository error: {error.message}"
  | .store error => s!"Repository error: {error.message}"
  | .jobNotFound id => s!"Job {id} not found"
  | .jobUnverified id error => s!"Could not verify state of job {id}: {error.message}"
  | .registry error => s!"Internal error: {error.message}"

end Failure

end LogQuery
