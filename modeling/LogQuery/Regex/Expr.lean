import LogQuery.Regex.CharSet

/-!
# Regular expressions

The meaning-bearing form of a pattern: flags are resolved, escapes are gone, and every position is a
set of characters.
-/

namespace LogQuery.Regex

open LogQuery.Text

/-- Conditions on a position that consume nothing. -/
inductive Look where
  /-- The start of the text. -/
  | textStart
  /-- The end of the text. -/
  | textEnd
  /-- The start of the text or the position after a line feed. -/
  | lineStart
  /-- The end of the text or the position before a line feed. -/
  | lineEnd
  /-- The start of a line where `\r\n`, `\r` and `\n` each end one. -/
  | lineStartCrlf
  /-- The end of a line where `\r\n`, `\r` and `\n` each end one. -/
  | lineEndCrlf
  /-- A word character on exactly one side. -/
  | boundary (ascii : Bool)
  /-- A word character on both sides or on neither. -/
  | notBoundary (ascii : Bool)
  /-- A word character after but not before. -/
  | wordStart (ascii : Bool)
  /-- A word character before but not after. -/
  | wordEnd (ascii : Bool)
  /-- No word character before. -/
  | wordStartHalf (ascii : Bool)
  /-- No word character after. -/
  | wordEndHalf (ascii : Bool)
  deriving Repr, DecidableEq

namespace Look

/-- Whether the character, if there is one, is a word character. -/
def besideWord (ascii : Bool) : Option Char → Bool
  | none => false
  | some c => isWord c && (!ascii || decide (c.toNat < 128))

/-- Whether the condition holds between these two neighbours; `none` is an end of the text. -/
def holds : Look → (before after : Option Char) → Bool
  | .textStart, before, _ => before.isNone
  | .textEnd, _, after => after.isNone
  | .lineStart, before, _ => before.isNone || before == some '\n'
  | .lineEnd, _, after => after.isNone || after == some '\n'
  | .lineStartCrlf, before, after =>
      before.isNone || before == some '\n' || (before == some '\r' && after != some '\n')
  | .lineEndCrlf, before, after =>
      after.isNone || after == some '\r' || (after == some '\n' && before != some '\r')
  | .boundary ascii, before, after => besideWord ascii before != besideWord ascii after
  | .notBoundary ascii, before, after => besideWord ascii before == besideWord ascii after
  | .wordStart ascii, before, after => !besideWord ascii before && besideWord ascii after
  | .wordEnd ascii, before, after => besideWord ascii before && !besideWord ascii after
  | .wordStartHalf ascii, before, _ => !besideWord ascii before
  | .wordEndHalf ascii, _, after => !besideWord ascii after

end Look

/-- Regular expressions with numbered groups. -/
inductive Expr where
  | empty
  | one (set : CharSet)
  | look (condition : Look)
  | concat (first second : Expr)
  /-- The left side is preferred. -/
  | alt (preferred other : Expr)
  /-- A part in parentheses that remember nothing; it means what its body means. -/
  | scope (body : Expr)
  | group (index : Nat) (name : Option String) (body : Expr)
  /-- From `min` to `max` repetitions, as many as possible when greedy, else as few. -/
  | repeats (min : Nat) (max : Option Nat) (greedy : Bool) (body : Expr)
  deriving Repr, DecidableEq

namespace Expr

/-- Whether the expression matches the empty text somewhere. -/
def nullable : Expr → Bool
  | .empty => true
  | .one _ => false
  | .look _ => true
  | .concat first second => first.nullable && second.nullable
  | .alt preferred other => preferred.nullable || other.nullable
  | .scope body => body.nullable
  | .group _ _ body => body.nullable
  | .repeats min _ _ body => min == 0 || body.nullable

/-- Whether the expression matches nothing but the empty text. -/
def onlyEmpty : Expr → Bool
  | .empty => true
  | .one _ => false
  | .look _ => true
  | .concat first second => first.onlyEmpty && second.onlyEmpty
  | .alt preferred other => preferred.onlyEmpty && other.onlyEmpty
  | .scope body => body.onlyEmpty
  | .group _ _ body => body.onlyEmpty
  | .repeats _ _ _ body => body.onlyEmpty

/-- A repetition in its simplest form.  Repeating what only matches the empty text more than once
adds nothing; none at all is the empty expression, and exactly one is the body. -/
def ofRepetition (min : Nat) (max : Option Nat) (greedy : Bool) (body : Expr) : Expr :=
  let (min, max) :=
    if body.onlyEmpty then (Nat.min min 1, some ((max.map (Nat.min · 1)).getD 1)) else (min, max)
  if min == 0 && max == some 0 then .empty
  else if min == 1 && max == some 1 then body
  else .repeats min max greedy body

/-- The groups of an expression with their names, in the order in which they open. -/
def groups : Expr → List (Nat × Option String)
  | .empty | .one _ | .look _ => []
  | .concat first second => first.groups ++ second.groups
  | .alt preferred other => preferred.groups ++ other.groups
  | .scope body => body.groups
  | .group index name body => (index, name) :: body.groups
  | .repeats _ _ _ body => body.groups

/-- Whether every match begins with the condition. -/
def opensWith (condition : Look) : Expr → Bool
  | .empty => false
  | .one _ => false
  | .look other => other == condition
  | .concat first second =>
      first.opensWith condition || (first.onlyEmpty && second.opensWith condition)
  | .alt preferred other => preferred.opensWith condition && other.opensWith condition
  | .scope body => body.opensWith condition
  | .group _ _ body => body.opensWith condition
  | .repeats min _ _ body => decide (0 < min) && body.opensWith condition

/-- Whether every match ends with the condition. -/
def closesWith (condition : Look) : Expr → Bool
  | .empty => false
  | .one _ => false
  | .look other => other == condition
  | .concat first second =>
      second.closesWith condition || (second.onlyEmpty && first.closesWith condition)
  | .alt preferred other => preferred.closesWith condition && other.closesWith condition
  | .scope body => body.closesWith condition
  | .group _ _ body => body.closesWith condition
  | .repeats min _ _ body => decide (0 < min) && body.closesWith condition

end Expr

end LogQuery.Regex
