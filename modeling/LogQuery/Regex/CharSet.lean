import LogQuery.Text.Word
import LogQuery.Text.Blank
import LogQuery.Text.CaseFold

/-!
# Sets of characters

What one position of a regular expression may hold.  A set is kept as the expression that describes
it, and membership is evaluated on the character at hand, so complements and differences need no
arithmetic on ranges.
-/

namespace LogQuery.Regex

open LogQuery.Text

/-- Set expressions over characters. -/
inductive CharSet where
  /-- No character. -/
  | none
  /-- The characters from `low` to `high`, both included. -/
  | range (low high : Char)
  /-- Word characters of all scripts. -/
  | word
  /-- Decimal digits of all scripts. -/
  | digit
  /-- White space of all scripts. -/
  | blank
  | union (left right : CharSet)
  | inter (left right : CharSet)
  | diff (left right : CharSet)
  | symmDiff (left right : CharSet)
  | complement (set : CharSet)
  /-- The characters that equal a member up to simple case folding. -/
  | caseClosure (set : CharSet)
  /-- The characters that equal a member up to the case of ASCII letters. -/
  | asciiCaseClosure (set : CharSet)
  deriving Repr, DecidableEq

namespace CharSet

/-- The set that holds one character. -/
def single (c : Char) : CharSet := .range c c

/-- Every character. -/
def all : CharSet := .complement .none

/-- The union of several sets. -/
def ofList (sets : List CharSet) : CharSet :=
  sets.foldr .union .none

/-- The other case of an ASCII letter; every other character is its own. -/
def swapAsciiCase (c : Char) : Char :=
  if c.isUpper then c.toLower else c.toUpper

/-- Membership. -/
def contains : CharSet → Char → Bool
  | .none, _ => false
  | .range low high, c => decide (low.toNat ≤ c.toNat) && decide (c.toNat ≤ high.toNat)
  | .word, c => isWord c
  | .digit, c => isDecimalDigit c
  | .blank, c => isBlank c
  | .union left right, c => left.contains c || right.contains c
  | .inter left right, c => left.contains c && right.contains c
  | .diff left right, c => left.contains c && !right.contains c
  | .symmDiff left right, c => left.contains c != right.contains c
  | .complement set, c => !set.contains c
  | .caseClosure set, c => (foldVariants c).any set.contains
  | .asciiCaseClosure set, c => set.contains c || set.contains (swapAsciiCase c)

@[simp] theorem contains_single (member c : Char) :
    (single member).contains c = true ↔ c = member := by
  simp only [single, contains, Bool.and_eq_true, decide_eq_true_eq]
  constructor
  · intro bounds
    exact Char.toNat_inj.mp (by omega)
  · rintro rfl
    exact ⟨Nat.le_refl _, Nat.le_refl _⟩

end CharSet

end LogQuery.Regex
