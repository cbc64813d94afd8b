import LogQuery.Regex.Expr

/-!
# Programs of regular expressions

An expression becomes a list of instructions whose targets are positions in that list.  A program is
built from its end: each part is compiled against the instruction that follows it.  Of the two
targets of a split the first is preferred, so the order of the splits is the order in which
alternatives are tried.
-/

namespace LogQuery.Regex

/-- One state of the machine. -/
inductive Instruction where
  /-- Consume a character of the set. -/
  | one (set : CharSet) (next : Nat)
  /-- Go on if the condition holds here. -/
  | look (condition : Look) (next : Nat)
  /-- Try the first target, then the second. -/
  | split (first second : Nat)
  /-- Remember the position under a slot: `2 i` opens group `i`, and `2 i + 1` closes it. -/
  | mark (slot next : Nat)
  | accept
  deriving Repr, DecidableEq

/-- The instructions written so far. -/
abbrev Code := Array Instruction

namespace Code

/-- Append an instruction; its position is the entry. -/
def emit (code : Code) (instruction : Instruction) : Nat × Code :=
  (code.size, code.push instruction)

/-- A split that prefers to go on with `body` when greedy and to leave for `next` when lazy. -/
def choice (greedy : Bool) (body next : Nat) : Instruction :=
  if greedy then .split body next else .split next body

/-- A part of a program: given where to go on, its entry and the longer code. -/
abbrev Part := Nat → Code → Nat × Code

/-- The part several times in a row. -/
def times (part : Part) : Nat → Part
  | 0, next, code => (next, code)
  | count + 1, next, code =>
      let (entry, code) := part next code
      times part count entry code

/-- The part up to `count` times before the rounds from `entry` on, which are written already; every
exit goes on at the same place. -/
def upTo (greedy : Bool) (part : Part) (next : Nat) : Nat → Part
  | 0, entry, code => (entry, code)
  | count + 1, entry, code =>
      let (body, code) := part entry code
      let (entry, code) := code.emit (choice greedy body next)
      upTo greedy part next count entry code

/-- The part once or more.  The entry is that of the part; the result names the split after it
too. -/
def onceOrMore (greedy : Bool) (part : Part) : Nat → Code → (Nat × Nat) × Code
  | next, code =>
      let (loop, code) := code.emit .accept
      let (body, code) := part loop code
      ((body, loop), code.setIfInBounds loop (choice greedy body next))

/-- The part any number of times.  A part that may be empty gets a split of its own in front, so
that an empty first round is tried in its place among the alternatives. -/
def anyTimes (greedy nullable : Bool) (part : Part) : Part
  | next, code =>
      let ((body, loop), code) := onceOrMore greedy part next code
      if nullable then code.emit (choice greedy body next) else (loop, code)

end Code

namespace Expr

/-- Compile an expression against what follows it. -/
def compile : Expr → Code.Part
  | .empty, next, code => (next, code)
  | .one set, next, code => code.emit (.one set next)
  | .look condition, next, code => code.emit (.look condition next)
  | .concat first second, next, code =>
      let (entry, code) := second.compile next code
      first.compile entry code
  | .alt preferred other, next, code =>
      let (second, code) := other.compile next code
      let (first, code) := preferred.compile next code
      code.emit (.split first second)
  | .scope body, next, code => body.compile next code
  | .group index _ body, next, code =>
      let (close, code) := code.emit (.mark (2 * index + 1) next)
      let (entry, code) := body.compile close code
      code.emit (.mark (2 * index) entry)
  | .repeats min (some max) greedy body, next, code =>
      let (entry, code) := Code.upTo greedy body.compile next (max - min) next code
      Code.times body.compile min entry code
  | .repeats 0 none greedy body, next, code =>
      Code.anyTimes greedy body.nullable body.compile next code
  | .repeats (min + 1) none greedy body, next, code =>
      let ((entry, _), code) := Code.onceOrMore greedy body.compile next code
      Code.times body.compile min entry code

end Expr

/-- A compiled expression. -/
structure Program where
  code : Code
  entry : Nat
  deriving Repr, DecidableEq

/-- The program of an expression: its code ends in the one accepting instruction, which stands
first. -/
def Program.ofExpr (expr : Expr) : Program :=
  let (entry, code) := expr.compile 0 #[.accept]
  ⟨code, entry⟩

end LogQuery.Regex
