import LogQuery.Regex.Outline
import LogQuery.Text.ByteSequences
import Std.Data.HashMap

/-!
# How large an automaton becomes

An expression is searched for with two automata over bytes, one that reads a text forward and one
that reads it backward.  Either may take ten mebibytes.  Nothing is built here: the states are
counted in the order in which they would be written, each with the bytes it takes.

A set of characters beyond ASCII becomes a network of byte ranges in which equal ends are shared.
What has been written is looked up in a table of slots of which each remembers its latest entry
only, so some ends are written again; which ones depends on the numbers of the states.
-/

namespace LogQuery.Regex

open LogQuery.Text

/-- Which way an automaton reads. -/
inductive Direction where
  | forward
  | backward
  deriving Repr, DecidableEq

/-- The states that have been written and the bytes that they take. -/
structure Tally where
  states : Nat
  bytes : Nat
  deriving Repr, DecidableEq

namespace Tally

/-- The largest automaton, in bytes, that is built. -/
def limit : Nat := 10485760

/-- Whether an automaton has outgrown the limit; it never shrinks again. -/
def exceeds (tally : Tally) : Bool :=
  decide (limit < tally.bytes)

/-- One more state, which takes so many bytes beyond those that every state takes. -/
def add (tally : Tally) (extra : Nat) : Tally :=
  ⟨tally.states + 1, tally.bytes + 32 + extra⟩

/-- More states that take nothing extra. -/
def addPlain (tally : Tally) (count : Nat) : Tally :=
  ⟨tally.states + count, tally.bytes + 32 * count⟩

/-- One more way to go on from a state that forks. -/
def addExit (tally : Tally) : Tally :=
  { tally with bytes := tally.bytes + 4 }

/-- A state that forks two ways. -/
def addFork (tally : Tally) : Tally :=
  tally.add 8

/-- A state that leaves on any of so many byte ranges. -/
def addRanges (tally : Tally) (count : Nat) : Tally :=
  tally.add (8 * count)

end Tally

/-- A part that has been written. -/
structure Written where
  tally : Tally
  /-- Whether the part ends in a state that forks. -/
  endsInFork : Bool
  deriving Repr, DecidableEq

/-- What writes a part behind those that stand. -/
abbrev Writer := Tally → Written

namespace Written

/-- Lead on to the next state, which a state that forks counts as one more way. -/
def lead (written : Written) : Tally :=
  if written.endsInFork then written.tally.addExit else written.tally

/-- Lead on to an empty state. -/
def close (written : Written) : Written :=
  ⟨written.lead.addPlain 1, false⟩

/-- Write a part again and again, until the limit is exceeded. -/
def again (write : Writer) : Nat → Written → Written
  | 0, written => written
  | count + 1, written =>
      if written.tally.exceeds then written else again write count (write written.lead)

/-- Write a part again and again, each time behind a fork that may leave, until the limit is
exceeded. -/
def againOrLeave (write : Writer) : Nat → Written → Written
  | 0, written => written
  | count + 1, written =>
      if written.tally.exceeds then written
      else againOrLeave write count (write written.lead.addFork)

end Written

namespace Writer

/-- A part a fixed number of times; none at all is an empty state. -/
def times (write : Writer) : Nat → Writer
  | 0, tally => ⟨tally.addPlain 1, false⟩
  | count + 1, tally => Written.again write count (write tally)

/-- A part from `min` to `max` times; `mayBeEmpty` holds unless every match of the part takes a
character. -/
def repeats (write : Writer) (mayBeEmpty : Bool) : Nat → Option Nat → Writer
  | 0, some 1, tally => (write tally.addFork).close
  | 0, none, tally =>
      if mayBeEmpty then ⟨(write tally).lead.addFork.addFork.addPlain 1, false⟩
      else ⟨(write (tally.add 4)).lead, true⟩
  | min, none, tally => ⟨(times write min tally).lead.add 4, true⟩
  | min, some max, tally =>
      if min = max then times write min tally
      else
        let required := times write min tally
        let last := Written.againOrLeave write (max - min)
          { required with tally := required.tally.addPlain 1 }
        ⟨last.lead, false⟩

end Writer

/-- Networks of byte ranges, in which states that were written before are looked up. -/
structure Network where
  tally : Tally
  /-- What a slot remembers: a key and the state that was written for it. -/
  slots : Std.HashMap Nat (List Nat × Nat)

namespace Network

/-- The slot of a key in a table of some size: every number of the key is mixed into a sum of
sixty-four bits, which is multiplied by a prime each time. -/
def slotOf (size : Nat) (key : List Nat) : Nat :=
  let mixed : UInt64 := key.foldl
    (fun mixed number => (mixed ^^^ number.toUInt64) * 1099511628211) 14695981039346656037
  mixed.toNat % size

/-- The state that a slot remembers for a key. -/
def known? (network : Network) (slot : Nat) (key : List Nat) : Option Nat :=
  match network.slots[slot]? with
  | some (remembered, state) => if remembered == key then some state else none
  | none => none

/-- The state for a key: the one that its slot remembers, or a new one, which is remembered
instead of what the slot held before. -/
def state (network : Network) (size : Nat) (key : List Nat) (extra : Nat) : Nat × Network :=
  let slot := slotOf size key
  match network.known? slot key with
  | some state => (state, network)
  | none =>
      let ⟨tally, slots⟩ := network
      (tally.states, ⟨tally.add extra, slots.insert slot (key, tally.states)⟩)

/-- How many slots there are for states that read forward. -/
def forwardSlots : Nat := 10000

/-- How many slots there are for states that read backward. -/
def backwardSlots : Nat := 1000

/-- The state from which sequences of at most so many bytes lead forward to a target.  Sequences
with the same first range stand together. -/
def forward (target : Nat) : Nat → List ByteSequence → Network → Nat × Network
  | 0, _, network => (target, network)
  | length + 1, sequences, network =>
      let groups := sequences.splitBy fun first second => first.head? == second.head?
      let (key, network) := groups.foldl
        (fun (key, network) group =>
          match group with
          | ((low, high) :: rest) :: _ =>
              let (next, network) :=
                if rest.isEmpty then (target, network)
                else forward target length (group.map List.tail) network
              (key ++ [low, high, next], network)
          | _ => (key, network))
        ([], network)
      network.state forwardSlots key (8 * groups.length)

/-- The state from which a sequence leads backward to a target. -/
def backward (target : Nat) (sequence : ByteSequence) (network : Network) : Nat × Network :=
  sequence.foldl
    (fun (next, network) (low, high) => network.state backwardSlots [next, low, high] 0)
    (target, network)

end Network

namespace CodeRanges

/-- Write a set of characters. -/
def write (direction : Direction) (ranges : CodeRanges) : Writer := fun tally =>
  let sequences := ranges.byteSequences
  if sequences.all (·.length == 1) then ⟨(tally.addPlain 1).addRanges ranges.length, false⟩
  else
    match direction with
    | .forward =>
        let (_, network) := Network.forward tally.states 4 sequences ⟨tally.addPlain 1, ∅⟩
        ⟨network.tally, false⟩
    | .backward =>
        let network := sequences.foldl
          (fun network sequence =>
            let (_, ⟨written, slots⟩) := Network.backward (tally.states + 1) sequence network
            ⟨written.addExit, slots⟩)
          ⟨tally.addPlain 2, ∅⟩
        ⟨network.tally, false⟩

end CodeRanges

/-- The bytes of characters in a row, in the order in which they are read. -/
def Direction.bytes (direction : Direction) (chars : List Char) : List UInt8 :=
  let bytes := (String.ofList chars).toUTF8.toList
  match direction with
  | .forward => bytes
  | .backward => bytes.reverse

/-- Write a tree of words, whose lengths are at most `length`.  A word that ends where others go on
splits the words of its place into those written before it and those after it. -/
def writeWords : Nat → List (List UInt8) → Tally → Tally
  | 0, _, tally => tally
  | length + 1, words, tally =>
      if words.all List.isEmpty then tally
      else
        let words := if words.head? == some [] then [] :: words.dropWhile List.isEmpty else words
        let runs := (words.splitBy fun first second => !first.isEmpty && !second.isEmpty).filter
          fun run => run != [[]]
        let tally := runs.foldl
          (fun tally run =>
            let heads := (run.filterMap List.head?).eraseDups
            let tally := heads.foldl
              (fun tally head => writeWords length
                ((run.filter (·.head? == some head)).map List.tail) tally)
              tally
            if heads.length = 1 then tally.addPlain 1 else tally.addRanges heads.length)
          tally
        tally.add (4 * (runs.length + words.countP List.isEmpty))

namespace Outline

mutual

/-- Write an outline. -/
def write (direction : Direction) : Outline → Writer
  | .empty, tally => ⟨tally.addPlain 1, false⟩
  | .literal chars, tally => ⟨tally.addPlain (direction.bytes chars).length, false⟩
  | .set ranges, tally => CodeRanges.write direction ranges tally
  | .look _, tally => ⟨tally.addPlain 1, false⟩
  | .group _ body, tally =>
      match direction with
      | .forward => (write direction body (tally.addPlain 1)).close
      | .backward => write direction body tally
  | .repeats min max _ body, tally =>
      Writer.repeats (write direction body) (body.leastLength?.all (· == 0)) min max tally
  | .concat parts, tally =>
      match direction with
      | .forward => writeForward parts ⟨tally, false⟩
      | .backward => writeBackward parts ⟨tally, false⟩
  | .alt branches, tally =>
      match branches.mapM chars? with
      | some words =>
          let words := words.map direction.bytes
          let length := words.foldl (fun length word => Nat.max length word.length) 0
          ⟨writeWords (length + 1) words (tally.addPlain 1), false⟩
      | none => ⟨writeBranches direction 0 branches tally, false⟩

/-- Write parts from the first to the last. -/
def writeForward : List Outline → Written → Written
  | [], written => written
  | part :: parts, written => writeForward parts (write .forward part written.lead)

/-- Write parts from the last to the first. -/
def writeBackward : List Outline → Written → Written
  | [], written => written
  | part :: parts, written => write .backward part (writeBackward parts written).lead

/-- Write alternatives, `done` of which are written.  The state that forks and the one in which all
of them end follow the second alternative. -/
def writeBranches (direction : Direction) (done : Nat) : List Outline → Tally → Tally
  | [], tally => tally
  | branch :: branches, tally =>
      let tally := (write direction branch tally).lead.addExit
      writeBranches direction (done + 1) branches (if done = 1 then tally.addPlain 2 else tally)

end

/-- The number of words from which on alternatives are looked up in a list of words. -/
def wordListSize : Nat := 3000

/-- Whether an outline is a list of words that is searched for without an automaton. -/
def isWordList : Outline → Bool
  | .alt branches => decide (wordListSize ≤ branches.length) && (branches.mapM chars?).isSome
  | _ => false

end Outline

namespace Expr

/-- How large the automaton that reads this way becomes.  In front of an expression that is not tied
to the end of the text where reading begins stands a loop over any bytes.  The automaton that reads
forward marks where the match as a whole begins and ends. -/
def tally (direction : Direction) (outline : Outline) (expr : Expr) : Tally :=
  let tied :=
    match direction with
    | .forward => expr.opensWith .textStart
    | .backward => expr.closesWith .textEnd
  let start : Tally := ⟨0, 0⟩
  let opening := if tied then start.addPlain 1 else (start.addFork.addPlain 1).addRanges 1
  ((Outline.group 0 outline).write direction opening).lead.addPlain 1

/-- Whether both automata for an expression stay within the limit; a list of words needs none. -/
def fits (expr : Expr) : Bool :=
  let outline := expr.outline
  outline.isWordList ||
    (!(expr.tally .backward outline).exceeds && !(expr.tally .forward outline).exceeds)

end Expr

end LogQuery.Regex
