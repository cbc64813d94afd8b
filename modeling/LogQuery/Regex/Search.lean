import LogQuery.Regex.Footprint
import LogQuery.Regex.Program
import LogQuery.Regex.Expr.OfPattern
import LogQuery.Regex.Pattern.Reader

/-!
# Searching a text

The machine explores the states of a program in order of preference and enters no state twice at one
position.  A state that was entered and left without success fails again, so the first accepting
path in order of preference is found, and the work is bounded by the number of states times the
number of positions.

Of all matches the leftmost start wins; among those, the order of preference decides.
-/

namespace LogQuery.Regex

/-- The positions remembered on the way, the latest first. -/
abbrev Marks := List (Nat × Nat)

/-- A state to explore. -/
structure Thread where
  state : Nat
  position : Nat
  marks : Marks
  deriving Repr, DecidableEq

/-- Where a match starts and ends, and what it remembered. -/
structure Hit where
  start : Nat
  stop : Nat
  marks : Marks
  deriving Repr, DecidableEq

/-- Which states have been entered at which positions. -/
abbrev Visited := Array Bool

namespace Program

/-- The characters on both sides of a position. -/
def neighbours (text : Array Char) (position : Nat) : Option Char × Option Char :=
  (if position = 0 then none else text[position - 1]?, text[position]?)

/-- The threads that one state leads to, in order of preference; `none` when it accepts. -/
def successors (program : Program) (text : Array Char) (thread : Thread) : Option (List Thread) :=
  match program.code[thread.state]? with
  | none => some []
  | some .accept => none
  | some (.one set next) =>
      match text[thread.position]? with
      | some c =>
          if set.contains c then
            some [{ thread with state := next, position := thread.position + 1 }]
          else some []
      | none => some []
  | some (.look condition next) =>
      let (before, after) := neighbours text thread.position
      if condition.holds before after then some [{ thread with state := next }] else some []
  | some (.split first second) =>
      some [{ thread with state := first }, { thread with state := second }]
  | some (.mark slot next) =>
      some [{ thread with state := next, marks := (slot, thread.position) :: thread.marks }]

/-- Where a thread stands in the table of visits. -/
def cell (program : Program) (thread : Thread) : Nat :=
  thread.position * program.code.size + thread.state

/-- Explore the threads from the first to the last; yields the first that accepts. -/
def explore (program : Program) (text : Array Char) :
    Nat → List Thread → Visited → Option Thread × Visited
  | 0, _, visited => (none, visited)
  | _ + 1, [], visited => (none, visited)
  | fuel + 1, thread :: rest, visited =>
      if visited.getD (program.cell thread) true then explore program text fuel rest visited
      else
        let visited := visited.setIfInBounds (program.cell thread) true
        match program.successors text thread with
        | none => (some thread, visited)
        | some threads => explore program text fuel (threads ++ rest) visited

/-- Enough steps to enter every state at every position and to drop every thread. -/
def exploreFuel (program : Program) (text : Array Char) : Nat :=
  2 * (program.code.size * (text.size + 1)) + 2

/-- Try the given number of starts, from `start` on; states that failed for an earlier start fail
for a later one. -/
def scan (program : Program) (text : Array Char) : Nat → Nat → Visited → Option Hit
  | 0, _, _ => none
  | count + 1, start, visited =>
      let threads : List Thread := [⟨program.entry, start, []⟩]
      match program.explore text (program.exploreFuel text) threads visited with
      | (some thread, _) => some ⟨start, thread.position, thread.marks⟩
      | (none, visited) => scan program text count (start + 1) visited

/-- The first match that starts at `start` or later. -/
def findFrom (program : Program) (text : Array Char) (start : Nat) : Option Hit :=
  program.scan text (text.size + 1 - start) start
    (Array.replicate (program.code.size * (text.size + 1)) false)

/-- The matches from `start` on, none overlapping the one before it.  An empty match right at the
end of the match before it does not count; the search goes on one character later. -/
def hitsFrom (program : Program) (text : Array Char) : Nat → Nat → Option Nat → List Hit
  | 0, _, _ => []
  | fuel + 1, start, lastStop =>
      match program.findFrom text start with
      | none => []
      | some hit =>
          if hit.start = hit.stop ∧ lastStop = some hit.stop then
            match program.findFrom text (start + 1) with
            | none => []
            | some hit => hit :: hitsFrom program text fuel hit.stop (some hit.stop)
          else hit :: hitsFrom program text fuel hit.stop (some hit.stop)

/-- All matches in a text, from left to right. -/
def hits (program : Program) (text : Array Char) : List Hit :=
  program.hitsFrom text (text.size + 2) 0 none

end Program

/-- The part of the text between the latest marks of a group, if the match went through it. -/
def Hit.group? (hit : Hit) (text : Array Char) (index : Nat) : Option String :=
  match hit.marks.lookup (2 * index), hit.marks.lookup (2 * index + 1) with
  | some start, some stop => some (String.ofList (text.extract start stop).toList)
  | _, _ => none

end LogQuery.Regex

namespace LogQuery

/-- A regular expression that is ready to search. -/
structure Regex where
  /-- The pattern as it is written. -/
  source : String
  /-- The names of the groups, from the first on. -/
  groupNames : List (Option String)
  program : Regex.Program
  deriving Repr, DecidableEq

namespace Regex

/-- The names of the groups by index; an index that no group bears has no name. -/
def namesByIndex (groups : List (Nat × Option String)) : List (Option String) :=
  let count := groups.foldl (fun count group => Nat.max count group.1) 0
  (List.range count).map fun index => (groups.lookup (index + 1)).join

/-- Compile a pattern. -/
def compile (source : String) : Except PatternError Regex := do
  let expr ← Expr.ofPattern (← Pattern.read source.toList)
  if expr.fits then .ok ⟨source, namesByIndex expr.groups, .ofExpr expr⟩
  else .error .tooLarge

/-- What each group holds, for every match from left to right. -/
def captures (regex : Regex) (text : String) : List (List (Option String)) :=
  let chars := text.toList.toArray
  (regex.program.hits chars).map fun hit =>
    (List.range regex.groupNames.length).map fun index => hit.group? chars (index + 1)

end Regex

end LogQuery
