import LogQuery.Text.CodeRanges

/-!
# Case mappings as runs

A simple case mapping sends one character to one character.  The mappings of a script come in runs:
characters at a fixed distance from one another that all move by the same amount.
-/

namespace LogQuery.Text

/-- The code points `first, first + stride, …, last`, each of which moves by `shift`. -/
structure CaseRun where
  first : Nat
  last : Nat
  stride : Nat
  shift : Int

namespace CaseRun

/-- Where the run sends a code point, if the run holds it. -/
def image? (run : CaseRun) (code : Nat) : Option Nat :=
  if run.first ≤ code ∧ code ≤ run.last ∧ (code - run.first) % run.stride = 0 then
    some (code + run.shift).toNat
  else none

/-- The code point of the run that is sent to `code`, if there is one. -/
def preimage? (run : CaseRun) (code : Nat) : Option Nat :=
  let candidate := (code - run.shift).toNat
  if run.image? candidate = some code then some candidate else none

/-- The code points of the run that a table holds. -/
def members (run : CaseRun) (table : CodeRanges) : CodeRanges :=
  (table.clip run.first run.last).flatMap fun (low, high) =>
    if run.stride = 1 then [(low, high)]
    else
      let start := run.first + (low - run.first + run.stride - 1) / run.stride * run.stride
      (List.range ((high + run.stride - start) / run.stride)).map fun index =>
        (start + index * run.stride, start + index * run.stride)

/-- Where the run sends the code points of a table. -/
def images (run : CaseRun) (table : CodeRanges) : CodeRanges :=
  (run.members table).shift run.shift

/-- The code points of the run that are sent into a table. -/
def preimages (run : CaseRun) (table : CodeRanges) : CodeRanges :=
  let first := (run.first + run.shift).toNat
  let last := (run.last + run.shift).toNat
  run.members ((table.clip first last).shift (-run.shift))

end CaseRun

/-- The image of a code point under a list of runs; a code point of no run stays. -/
def mapRuns (runs : List CaseRun) (code : Nat) : Nat :=
  (runs.findSome? (·.image? code)).getD code

end LogQuery.Text
