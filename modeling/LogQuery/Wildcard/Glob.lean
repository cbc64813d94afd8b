import LogQuery.Wildcard.Sequence

/-!
# Globs

A glob names files: two stars stand for any run of characters of a line, path separators included,
one star for any run of characters but separators, a question mark for one character that is no
separator, and every other character for itself.
-/

namespace LogQuery.Wildcard

/-- Slash and backslash both separate the parts of a path. -/
def isSeparator (c : Char) : Bool :=
  c == '/' || c == '\\'

/-- The items of a glob; of a row of stars the first two are taken together. -/
def globItems : List Char → List Item
  | [] => []
  | '*' :: '*' :: rest => .many (· != '\n') :: globItems rest
  | '*' :: rest => .many (!isSeparator ·) :: globItems rest
  | '?' :: rest => .one (!isSeparator ·) :: globItems rest
  | c :: rest => .one (· == c) :: globItems rest

/-- Whether a glob names a source. -/
def globMatches (glob source : String) : Bool :=
  coversAll (globItems glob.toList) source.toList

end LogQuery.Wildcard
