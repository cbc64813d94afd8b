/-!
# Tables of code points

A character property is stored as the ascending list of its inclusive ranges.  Looking a code point
up stops at the first range that does not lie wholly below it.

Tables combine as sets do.  Each operation gives a table in which ranges that touch are one, so two
tables of the same code points are the same list.
-/

namespace LogQuery.Text

/-- Ascending, disjoint, inclusive ranges of code points. -/
abbrev CodeRanges := List (Nat × Nat)

/-- Membership in an ascending table: the first range that ends at or above the code point
decides. -/
def CodeRanges.contains : CodeRanges → Nat → Bool
  | [], _ => false
  | (low, high) :: rest, code =>
      if code ≤ high then decide (low ≤ code) else CodeRanges.contains rest code

namespace CodeRanges

/-- The largest code point. -/
def lastCode : Nat := 0x10FFFF

/-- Put a range before a table that begins no lower; ranges that touch become one. -/
def prepend (low high : Nat) : CodeRanges → CodeRanges
  | [] => [(low, high)]
  | (nextLow, nextHigh) :: rest =>
      if nextLow ≤ high + 1 then prepend low (Nat.max high nextHigh) rest
      else (low, high) :: (nextLow, nextHigh) :: rest

/-- The table of some ranges, whatever their order. -/
def ofRanges (ranges : List (Nat × Nat)) : CodeRanges :=
  (ranges.mergeSort fun first second => decide (first.1 ≤ second.1)).foldr
    (fun range table => prepend range.1 range.2 table) []

/-- The code points of either table. -/
def union (left right : CodeRanges) : CodeRanges :=
  ofRanges (left ++ right)

/-- The code points from `start` on that a table leaves out. -/
def gapsFrom (start : Nat) : CodeRanges → CodeRanges
  | [] => if start ≤ lastCode then [(start, lastCode)] else []
  | (low, high) :: rest =>
      if start < low then (start, low - 1) :: gapsFrom (high + 1) rest
      else gapsFrom (high + 1) rest

/-- The code points that a table leaves out. -/
def complement (table : CodeRanges) : CodeRanges :=
  table.gapsFrom 0

/-- The code points of both tables. -/
def inter (left right : CodeRanges) : CodeRanges :=
  (union left.complement right.complement).complement

/-- The code points of the left table that the right one leaves out. -/
def diff (left right : CodeRanges) : CodeRanges :=
  left.inter right.complement

/-- The code points of exactly one of the tables. -/
def symmDiff (left right : CodeRanges) : CodeRanges :=
  union (left.diff right) (right.diff left)

/-- What a table holds from `low` to `high`. -/
def clip (low high : Nat) (table : CodeRanges) : CodeRanges :=
  (table.map fun range => (Nat.max low range.1, Nat.min high range.2)).filter fun range =>
    decide (range.1 ≤ range.2)

/-- The code points of a table that are characters: surrogates are none. -/
def characters (table : CodeRanges) : CodeRanges :=
  table.clip 0 0xD7FF ++ table.clip 0xE000 lastCode

/-- Every range moved by the same distance. -/
def shift (distance : Int) (table : CodeRanges) : CodeRanges :=
  table.map fun range => ((range.1 + distance).toNat, (range.2 + distance).toNat)

end CodeRanges

end LogQuery.Text
