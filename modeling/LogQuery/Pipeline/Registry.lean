import LogQuery.Pipeline.Step

/-!
# Registries of steps

A registry knows steps by name, and how each is compiled from a value and options.
-/

namespace LogQuery.Pipeline

/-- How a step is compiled from its value and its options. -/
abbrev StepCompiler := (value : String) → (options : Fields) → Except CompileError Step

/-- There is a step of this name already. -/
structure DuplicateStep where
  name : String
  deriving Repr, DecidableEq

/-- The wording of the error. -/
def DuplicateStep.message (error : DuplicateStep) : String :=
  s!"step '{error.name}' is already registered"

/-- Steps by name. -/
structure StepRegistry where
  compilers : Std.ExtTreeMap String StepCompiler compare := ∅

namespace StepCompiler

/-- The search step. -/
def search : StepCompiler := fun value options =>
  (SearchStep.compile value options).map .search

/-- The rex step. -/
def rex : StepCompiler := fun value options =>
  ((RexStep.compile value options).map .rex).mapError .step

/-- The where step. -/
def filter : StepCompiler := fun value options =>
  ((WhereStep.compile value options).map .filter).mapError .step

/-- The table step, which has no options. -/
def table : StepCompiler := fun value _ =>
  ((TableStep.compile value).map .table).mapError .step

/-- The surrounding step. -/
def surrounding : StepCompiler := fun value options =>
  ((SurroundingStep.compile value options).map .surrounding).mapError .step

/-- A step that takes no notice of its value and options. -/
def declared (declaration : Declaration) : StepCompiler := fun _ _ =>
  .ok (.declared declaration)

end StepCompiler

namespace StepRegistry

/-- The registry without steps. -/
def empty : StepRegistry := {}

/-- The registry of the builtin steps. -/
def builtin : StepRegistry where
  compilers := .ofList
    [(Query.searchName, StepCompiler.search), (RexStep.stepName, StepCompiler.rex),
      (WhereStep.stepName, StepCompiler.filter), (TableStep.stepName, StepCompiler.table),
      (SurroundingStep.stepName, StepCompiler.surrounding)]

/-- How the step of a name is compiled. -/
def get? (registry : StepRegistry) (name : String) : Option StepCompiler :=
  registry.compilers[name]?

/-- Whether there is a step of a name. -/
def contains (registry : StepRegistry) (name : String) : Bool :=
  registry.compilers.contains name

/-- The names of all steps, in ascending order. -/
def names (registry : StepRegistry) : List String :=
  registry.compilers.keys

/-- Add a step under a new name. -/
def register (registry : StepRegistry) (name : String) (compiler : StepCompiler) :
    Except DuplicateStep StepRegistry :=
  if registry.contains name then .error ⟨name⟩
  else .ok { compilers := registry.compilers.insert name compiler }

/-- Add a step that only declares things. -/
def declare (registry : StepRegistry) (declaration : Declaration) :
    Except DuplicateStep StepRegistry :=
  registry.register declaration.name (StepCompiler.declared declaration)

end StepRegistry

end LogQuery.Pipeline
