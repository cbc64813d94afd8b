/-!
# Sequences of character classes

A wildcard pattern is a sequence of items: one character of a class, or a run of characters of a
class.  Which suffixes of a text a sequence can begin at is computed from the last item to the
first, one truth value for every suffix, so the work is the number of items times the length of the
text.

`Generates` says what a sequence stands for without the computation.
-/

namespace LogQuery.Wildcard

/-- An item of a sequence; its class is the characters it accepts. -/
inductive Item where
  /-- Exactly one character of the class. -/
  | one (accepts : Char → Bool)
  /-- Any number of characters of the class. -/
  | many (accepts : Char → Bool)

namespace Item

/-- The texts that one item stands for. -/
def Covers : Item → List Char → Prop
  | .one accepts, text => ∃ c, text = [c] ∧ accepts c = true
  | .many accepts, text => ∀ c ∈ text, accepts c = true

end Item

/-- The texts that a sequence of items stands for: its items, in order, cover the text. -/
inductive Generates : List Item → List Char → Prop where
  | nil : Generates [] []
  | cons {item : Item} {items : List Item} {text rest : List Char} :
      item.Covers text → Generates items rest → Generates (item :: items) (text ++ rest)

/-- One truth value for every suffix of a text, from the whole text down to the empty one. -/
abbrev SuffixTable := List Bool

namespace SuffixTable

/-- The suffixes that satisfy a condition. -/
def ofCondition (condition : List Char → Bool) : List Char → SuffixTable
  | [] => [condition []]
  | c :: rest => condition (c :: rest) :: ofCondition condition rest

/-- The suffixes whose first character is accepted and whose rest the table holds of. -/
def afterOne (accepts : Char → Bool) : List Char → SuffixTable → SuffixTable
  | c :: rest, _ :: table => (accepts c && table.headD false) :: afterOne accepts rest table
  | _, _ => [false]

/-- The suffixes from which accepted characters lead to a suffix that the table holds of. -/
def afterMany (accepts : Char → Bool) : List Char → SuffixTable → SuffixTable
  | c :: rest, here :: table =>
      let later := afterMany accepts rest table
      (here || (accepts c && later.headD false)) :: later
  | _, table => table

/-- The suffixes at which an item can begin, when the table says where it may end. -/
def before (text : List Char) (item : Item) (table : SuffixTable) : SuffixTable :=
  match item with
  | .one accepts => afterOne accepts text table
  | .many accepts => afterMany accepts text table

/-- The suffixes at which a sequence can begin, when the table says where it may end. -/
def beforeAll (text : List Char) (items : List Item) (table : SuffixTable) : SuffixTable :=
  items.foldr (before text) table

end SuffixTable

/-- Whether a sequence covers a whole text. -/
def coversAll (items : List Item) (text : List Char) : Bool :=
  (SuffixTable.beforeAll text items (.ofCondition List.isEmpty text)).headD false

end LogQuery.Wildcard
