import LogQuery.Text.CodeRanges

/-!
# White space

The twenty-five characters with the Unicode property `White_Space`.  They separate the words of a
query, and they are trimmed from column names.
-/

namespace LogQuery.Text

/-- White space, in ascending order. -/
def blankTable : CodeRanges := [
  (0x9, 0xD), (0x20, 0x20), (0x85, 0x85), (0xA0, 0xA0), (0x1680, 0x1680), (0x2000, 0x200A),
  (0x2028, 0x2029), (0x202F, 0x202F), (0x205F, 0x205F), (0x3000, 0x3000)]

/-- Whether a character is white space in the sense of Unicode. -/
def isBlank (c : Char) : Bool :=
  blankTable.contains c.toNat

/-- Drop the blank characters at both ends. -/
def trim (text : List Char) : List Char :=
  ((text.dropWhile isBlank).reverse.dropWhile isBlank).reverse

end LogQuery.Text
