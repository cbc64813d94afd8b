import Std.Data.ExtTreeMap

/-!
# Registries of running jobs

A registry holds one token for each running job and cancels it on demand.  A token that has been
replaced or removed is out of its reach.  After a shutdown the registry has stopped for good.
-/

namespace LogQuery

/-- Why a job cannot be registered. -/
inductive RegistryError where
  | stopped
  deriving Repr, DecidableEq

/-- The wording of the error. -/
def RegistryError.message : RegistryError → String
  | .stopped => "job registry has stopped"

/-- Tokens of running jobs. -/
structure JobRegistry (Token : Type) where
  /-- The current token of each registered job. -/
  tokens : Std.ExtTreeMap Int Token compare := ∅
  /-- The tokens that the registry has cancelled. -/
  cancelled : List Token := []
  hasStopped : Bool := false

namespace JobRegistry

variable {Token : Type}

/-- The registry without jobs. -/
def empty : JobRegistry Token := {}

/-- Register a job, or give a registered one another token. -/
def register (registry : JobRegistry Token) (id : Int) (token : Token) :
    Except RegistryError (JobRegistry Token) :=
  if registry.hasStopped then .error .stopped
  else .ok { registry with tokens := registry.tokens.insert id token }

/-- Forget a job. -/
def remove (registry : JobRegistry Token) (id : Int) : JobRegistry Token :=
  { registry with tokens := registry.tokens.erase id }

/-- Whether a job is registered. -/
def contains (registry : JobRegistry Token) (id : Int) : Bool :=
  registry.tokens.contains id

/-- Cancel the token of a job, if it is registered. -/
def cancel (registry : JobRegistry Token) (id : Int) : JobRegistry Token :=
  match registry.tokens[id]? with
  | some token => { registry with cancelled := token :: registry.cancelled }
  | none => registry

/-- The registered jobs in ascending order. -/
def running (registry : JobRegistry Token) : List Int :=
  registry.tokens.keys

/-- Cancel the tokens of all registered jobs, and stop. -/
def shutdown (registry : JobRegistry Token) : JobRegistry Token where
  tokens := ∅
  cancelled := registry.tokens.values ++ registry.cancelled
  hasStopped := true

/-- Whether the registry has cancelled a token. -/
def isCancelled [BEq Token] (registry : JobRegistry Token) (token : Token) : Bool :=
  registry.cancelled.contains token

end JobRegistry

end LogQuery
