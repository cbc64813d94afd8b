import LogQuery.Regex.CharSet.Ranges
import LogQuery.Regex.Expr

/-!
# Outlines of regular expressions

An outline is an expression with its sequences and alternatives gathered and put into their shortest
form.  Neighbouring literals are one, sequences and alternatives are not nested in their own kind,
alternatives that each hold one character are one set, and what all alternatives begin with stands
before them.  Only such a form tells how large an automaton becomes.
-/

namespace LogQuery.Regex

open LogQuery.Text

/-- The shape of an expression. -/
inductive Outline where
  | empty
  /-- Characters in a row. -/
  | literal (chars : List Char)
  /-- One character of a table that holds none or several. -/
  | set (ranges : CodeRanges)
  | look (condition : Look)
  | group (index : Nat) (body : Outline)
  | repeats (min : Nat) (max : Option Nat) (greedy : Bool) (body : Outline)
  | concat (parts : List Outline)
  | alt (branches : List Outline)

namespace Outline

mutual

/-- Whether two outlines are the same. -/
def same : Outline → Outline → Bool
  | .empty, .empty => true
  | .literal chars, .literal otherChars => chars == otherChars
  | .set ranges, .set otherRanges => ranges == otherRanges
  | .look condition, .look otherCondition => condition == otherCondition
  | .group index body, .group otherIndex otherBody =>
      index == otherIndex && same body otherBody
  | .repeats min max greedy body, .repeats otherMin otherMax otherGreedy otherBody =>
      min == otherMin && max == otherMax && greedy == otherGreedy && same body otherBody
  | .concat parts, .concat otherParts => sameAll parts otherParts
  | .alt branches, .alt otherBranches => sameAll branches otherBranches
  | _, _ => false

/-- Whether two lists hold the same outlines in the same order. -/
def sameAll : List Outline → List Outline → Bool
  | [], [] => true
  | outline :: outlines, other :: others => same outline other && sameAll outlines others
  | _, _ => false

end

mutual

/-- How many characters every match takes at least; unknown when a part can never match. -/
def leastLength? : Outline → Option Nat
  | .empty => some 0
  | .literal chars => some chars.length
  | .set ranges => if ranges.isEmpty then none else some 1
  | .look _ => some 0
  | .group _ body => body.leastLength?
  | .repeats min _ _ body => body.leastLength?.map (min * ·)
  | .concat parts => sumOfLeast? parts
  | .alt branches => leastOfAll? branches

/-- The least lengths of parts in a row, added up. -/
def sumOfLeast? : List Outline → Option Nat
  | [] => some 0
  | part :: parts =>
      match part.leastLength?, sumOfLeast? parts with
      | some length, some others => some (length + others)
      | _, _ => none

/-- The smallest of the least lengths of alternatives. -/
def leastOfAll? : List Outline → Option Nat
  | [] => none
  | [branch] => branch.leastLength?
  | branch :: branches =>
      match branch.leastLength?, leastOfAll? branches with
      | some length, some others => some (Nat.min length others)
      | _, _ => none

end

/-- The outline of a set: a set of one character is a literal. -/
def ofRanges (ranges : CodeRanges) : Outline :=
  match ranges with
  | [(low, high)] => if low = high then .literal [Char.ofNat low] else .set ranges
  | _ => .set ranges

/-- The parts of a sequence. -/
def parts : Outline → List Outline
  | .empty => []
  | .concat parts => parts
  | outline => [outline]

/-- The sequence of some parts. -/
def ofParts : List Outline → Outline
  | [] => .empty
  | [part] => part
  | parts => .concat parts

/-- Put a part before others; literals that meet become one. -/
def before : Outline → List Outline → List Outline
  | .literal chars, .literal others :: rest => .literal (chars ++ others) :: rest
  | part, rest => part :: rest

/-- One outline after the other. -/
def append (first second : Outline) : Outline :=
  .ofParts (first.parts.foldr before second.parts)

/-- The alternatives of an outline. -/
def branches : Outline → List Outline
  | .alt branches => branches
  | outline => [outline]

/-- The code point of a literal of one character. -/
def single? : Outline → Option (Nat × Nat)
  | .literal [c] => some (c.toNat, c.toNat)
  | _ => none

/-- The table of a set. -/
def ranges? : Outline → Option CodeRanges
  | .set ranges => some ranges
  | _ => none

/-- The characters of a literal. -/
def chars? : Outline → Option (List Char)
  | .literal chars => some chars
  | _ => none

/-- The parts of a sequence that has several. -/
def parts? : Outline → Option (List Outline)
  | .concat parts => some parts
  | _ => none

/-- How many parts two sequences begin with in common. -/
def commonLength : List Outline → List Outline → Nat
  | part :: parts, other :: others => if part.same other then 1 + commonLength parts others else 0
  | _, _ => 0

/-- What all alternatives begin with, and what follows it in each; there is nothing to share unless
all of them are sequences. -/
def shared? (branches : List Outline) : Option (List Outline × List Outline) := do
  match ← branches.mapM parts? with
  | [] => none
  | first :: others =>
      let length := others.foldl (fun length parts => Nat.min length (commonLength first parts))
        first.length
      if length = 0 then none
      else some (first.take length, (first :: others).map fun parts => .ofParts (parts.drop length))

/-- Alternatives as one set, if they are all literals of one character or all sets. -/
def asSet? (branches : List Outline) : Option Outline :=
  match branches.mapM single?, branches.mapM ranges? with
  | some ranges, _ => some (.ofRanges (.ofRanges ranges))
  | none, some tables => some (.ofRanges (.ofRanges tables.flatten))
  | none, none => none

/-- Alternatives of which none is a list of alternatives itself. -/
def choose (branches : List Outline) : Outline :=
  (asSet? branches).getD (.alt branches)

/-- The outline of alternatives. -/
def ofBranches : List Outline → Outline
  | [branch] => branch
  | written =>
      let branches := written.flatMap branches
      match asSet? branches, shared? branches with
      | some outline, _ => outline
      | none, some (common, others) =>
          (Outline.ofParts common).append (choose (others.flatMap Outline.branches))
      | none, none => .alt branches

end Outline

namespace Expr

/-- The outlines of the alternatives of an expression, before others. -/
def outlinesBefore : Expr → List Outline → List Outline
  | .empty, others => .empty :: others
  | .one set, others => .ofRanges set.ranges :: others
  | .look condition, others => .look condition :: others
  | .concat first second, others =>
      (Outline.ofBranches (first.outlinesBefore [])).append
        (.ofBranches (second.outlinesBefore [])) :: others
  | .alt preferred other, others => preferred.outlinesBefore (other.outlinesBefore others)
  | .scope body, others => .ofBranches (body.outlinesBefore []) :: others
  | .group index _ body, others => .group index (.ofBranches (body.outlinesBefore [])) :: others
  | .repeats min max greedy body, others =>
      .repeats min max greedy (.ofBranches (body.outlinesBefore [])) :: others

/-- The outline of an expression. -/
def outline (expr : Expr) : Outline :=
  .ofBranches (expr.outlinesBefore [])

end Expr

end LogQuery.Regex
