import LogQuery.Regex.CharSet

/-!
# The ranges of a set of characters

Membership is a matter of one character at a time; how large an automaton for the set becomes
depends on the table of all its members.
-/

namespace LogQuery.Regex

open LogQuery.Text

namespace CharSet

/-- The table of word characters. -/
def wordRanges : CodeRanges :=
  .ofRanges ([(0x30, 0x39), (0x41, 0x5A), (0x5F, 0x5F), (0x61, 0x7A)] ++ wordTable)

/-- The table of decimal digits. -/
def digitRanges : CodeRanges :=
  .ofRanges ((0x30, 0x39) :: digitTable)

/-- A table closed under the case of ASCII letters. -/
def asciiClosure (table : CodeRanges) : CodeRanges :=
  .ofRanges
    (table ++ (table.clip 0x41 0x5A).shift 32 ++ (table.clip 0x61 0x7A).shift (-32))

/-- The table of a set; surrogates may stand in it or not. -/
def codes : CharSet → CodeRanges
  | .none => []
  | .range low high => if low.toNat ≤ high.toNat then [(low.toNat, high.toNat)] else []
  | .word => wordRanges
  | .digit => digitRanges
  | .blank => blankTable
  | .union left right => left.codes.union right.codes
  | .inter left right => left.codes.inter right.codes
  | .diff left right => left.codes.diff right.codes
  | .symmDiff left right => left.codes.symmDiff right.codes
  | .complement set => set.codes.complement
  | .caseClosure set => foldClosure set.codes
  | .asciiCaseClosure set => asciiClosure set.codes

/-- The table of the members of a set. -/
def ranges (set : CharSet) : CodeRanges :=
  set.codes.characters

end CharSet

end LogQuery.Regex
