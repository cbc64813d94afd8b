import LogQuery.Text.CaseFold
import LogQuery.Text.Word
import LogQuery.Wildcard.Sequence

/-!
# Fragments

A fragment is what one word of a search looks for.  Stars split it into pieces, which have to occur
in their order on one line, without overlap and whatever their case.  The first piece begins where
no word character stands before it and the last one ends where none follows, except on a side where
the fragment has a star.
-/

namespace LogQuery.Wildcard

open LogQuery.Text

/-- The items of a fragment: literal characters up to case, and runs within a line. -/
def fragmentItems (fragment : List Char) : List Item :=
  fragment.map fun c => if c == '*' then .many (· != '\n') else .one (sameFold c)

/-- Whether a piece may end before this suffix. -/
def freeAfter : List Char → Bool
  | [] => true
  | c :: _ => !isWord c

/-- Whether a piece may begin after this character; at the start of a text there is none. -/
def freeBefore : Option Char → Bool
  | none => true
  | some c => !isWord c

/-- Whether some suffix that the table holds of begins at a permitted place. -/
def anyStart (permitted : Option Char → Bool) : Option Char → List Char → SuffixTable → Bool
  | before, text, here :: table =>
      (here && permitted before) ||
        match text with
        | c :: rest => anyStart permitted (some c) rest table
        | [] => false
  | _, _, [] => false

/-- Whether a text holds the fragment. -/
def fragmentMatches (fragment text : String) : Bool :=
  let pattern := fragment.toList
  let chars := text.toList
  let stops := SuffixTable.ofCondition
    (fun rest => pattern.getLast? == some '*' || freeAfter rest) chars
  anyStart (fun before => pattern.head? == some '*' || freeBefore before) none chars
    (.beforeAll chars (fragmentItems pattern) stops)

end LogQuery.Wildcard
