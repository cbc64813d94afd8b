import LogQuery.Regex.Footprint

/-!
# Patterns that are too large

Fragments and globs are searched for with the automata of regular expressions, and one whose
automaton would outgrow the limit cannot be searched for at all.  The expressions here serve to
measure a pattern; what it matches is said without them.
-/

namespace LogQuery.Wildcard

open LogQuery.Regex

/-- Parts in a row. -/
def inSequence (parts : List Expr) : Expr :=
  parts.foldr .concat .empty

/-- Any number of characters of a set. -/
def anyNumber (set : CharSet) : Expr :=
  .repeats 0 none true (.one set)

/-- The characters of a line. -/
def withinLine : CharSet := .complement (.single '\n')

/-- The characters of one part of a path. -/
def withinPart : CharSet := .complement (.union (.single '/') (.single '\\'))

/-- One end of a fragment: an end of the text or a character that is no word character. -/
def fragmentEnd (index : Nat) (condition : Look) : Expr :=
  .group index none (.alt (.look condition) (.one (.complement .word)))

/-- The expression of a fragment. -/
def fragmentExpr (fragment : List Char) : Expr :=
  let opening := if fragment.head? == some '*' then [] else [fragmentEnd 1 .textStart]
  let closing := if fragment.getLast? == some '*' then [] else [fragmentEnd 2 .textEnd]
  let items := fragment.map fun c =>
    if c == '*' then anyNumber withinLine else .one (.caseClosure (.single c))
  inSequence (opening ++ items ++ closing)

/-- The items of a glob as expressions. -/
def globParts : List Char → List Expr
  | [] => []
  | '*' :: '*' :: rest => anyNumber withinLine :: globParts rest
  | '*' :: rest => anyNumber withinPart :: globParts rest
  | '?' :: rest => .one withinPart :: globParts rest
  | c :: rest => .one (.single c) :: globParts rest

/-- The expression of a glob. -/
def globExpr (glob : List Char) : Expr :=
  inSequence (.look .textStart :: globParts glob ++ [.look .textEnd])

/-- Patterns of up to so many characters fit whatever their characters are, and measuring them is
left out. -/
def unmeasuredLength : Nat := 9000

/-- Whether a fragment can be searched for. -/
def fragmentFits (fragment : String) : Bool :=
  decide (fragment.length ≤ unmeasuredLength) || (fragmentExpr fragment.toList).fits

/-- Whether a glob can be searched for. -/
def globFits (glob : String) : Bool :=
  decide (glob.length ≤ unmeasuredLength) || (globExpr glob.toList).fits

end LogQuery.Wildcard
