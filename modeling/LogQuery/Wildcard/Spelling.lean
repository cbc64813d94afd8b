import LogQuery.Regex.Pattern.Reader

/-!
# Wildcards as written patterns

A fragment and a glob each have a regular expression that is searched for in their place, and these
are the texts of those expressions.
-/

namespace LogQuery.Wildcard

/-- A character that stands for itself. -/
def escape (c : Char) : List Char :=
  if Regex.Reader.isMeta c then ['\\', c] else [c]

/-- The written pattern of a fragment: its pieces up to case, with any run within a line between
them, and a boundary on each side that has no star. -/
def fragmentPattern (fragment : List Char) : List Char :=
  let opening := if fragment.head? == some '*' then "" else "(^|\\W)"
  let closing := if fragment.getLast? == some '*' then "" else "($|\\W)"
  let pieces := (fragment.splitOn '*').map (·.flatMap escape)
  "(?i)".toList ++ opening.toList ++ List.intercalate ".*".toList pieces ++ closing.toList

/-- The written pattern of a glob between its ends. -/
def globBody : List Char → List Char
  | [] => []
  | '*' :: '*' :: rest => ".*".toList ++ globBody rest
  | '*' :: rest => "[^/\\\\]*".toList ++ globBody rest
  | '?' :: rest => "[^/\\\\]".toList ++ globBody rest
  | c :: rest => escape c ++ globBody rest

/-- The written pattern of a glob, which has to match from the start of a text to its end. -/
def globPattern (glob : List Char) : List Char :=
  '^' :: globBody glob ++ ['$']

end LogQuery.Wildcard
