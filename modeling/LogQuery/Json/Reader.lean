import LogQuery.Json.Number
import LogQuery.Json.Text

/-!
# Reading JSON

One value with white space around it.  Each step consumes a character, so the length of the text
bounds the recursion.
-/

namespace LogQuery.Json

/-- Space, tab, line feed and carriage return. -/
def isSpace (c : Char) : Bool :=
  c == ' ' || c == '\t' || c == '\n' || c == '\r'

/-- The text from its first character on that is no space. -/
def skipSpace (text : List Char) : List Char :=
  text.dropWhile isSpace

/-- The text after a literal. -/
def expect? : List Char → List Char → Option (List Char)
  | [], text => some text
  | c :: literal, d :: text => if c == d then expect? literal text else none
  | _ :: _, [] => none

/-- The levels of nesting that are read. -/
def depthLimit : Nat := 127

/-- The string whose opening quote has been read. -/
def readString? (text : List Char) : Option (Option String × List Char) := do
  let (parts, rest) ← readParts? text
  some ((joinParts? parts).map String.ofList, rest)

/-- The object with these members; a name that stands for no text leaves it unreadable. -/
def objectOf (members : List (Option String × Json)) : Json :=
  match members.mapM fun (name, value) => name.map (·, value) with
  | some members => .object members
  | none => .unreadable

mutual

/-- The value at the front, when `depth` more levels may open. -/
def readValue? : (fuel depth : Nat) → List Char → Option (Json × List Char)
  | 0, _, _ => none
  | fuel + 1, depth, text =>
      match skipSpace text with
      | [] => none
      | 'n' :: rest => (expect? ['u', 'l', 'l'] rest).map (.null, ·)
      | 't' :: rest => (expect? ['r', 'u', 'e'] rest).map (.bool true, ·)
      | 'f' :: rest => (expect? ['a', 'l', 's', 'e'] rest).map (.bool false, ·)
      | '"' :: rest => do
          let (value, left) ← readString? rest
          some ((value.map Json.string).getD .unreadable, left)
      | '[' :: rest => do
          let (items, left) ←
            match skipSpace rest with
            | ']' :: left => some ([], left)
            | rest => readItems? fuel (depth - 1) rest
          some (if depth = 0 then .unreadable else .array items, left)
      | '\x7b' :: rest => do
          let (members, left) ←
            match skipSpace rest with
            | '\x7d' :: left => some ([], left)
            | rest => readMembers? fuel (depth - 1) rest
          some (if depth = 0 then .unreadable else objectOf members, left)
      | rest => do
          let (number, left) ← readNumberText? rest
          some (number.toJson, left)

/-- One item or more, up to the closing bracket. -/
def readItems? : (fuel depth : Nat) → List Char → Option (List Json × List Char)
  | 0, _, _ => none
  | fuel + 1, depth, text => do
      let (item, rest) ← readValue? fuel depth text
      match skipSpace rest with
      | ',' :: rest =>
          let (items, left) ← readItems? fuel depth rest
          some (item :: items, left)
      | ']' :: left => some ([item], left)
      | _ => none

/-- One member or more, up to the closing brace. -/
def readMembers? :
    (fuel depth : Nat) → List Char → Option (List (Option String × Json) × List Char)
  | 0, _, _ => none
  | fuel + 1, depth, text =>
      match skipSpace text with
      | '"' :: rest => do
          let (name, rest) ← readString? rest
          let rest ← expect? [':'] (skipSpace rest)
          let (value, rest) ← readValue? fuel depth rest
          match skipSpace rest with
          | ',' :: rest =>
              let (members, left) ← readMembers? fuel depth rest
              some ((name, value) :: members, left)
          | '\x7d' :: left => some ([(name, value)], left)
          | _ => none
      | _ => none

end

/-- Read a text that is one value. -/
def read? (text : String) : Option Json := do
  let chars := text.toList
  let (value, rest) ← readValue? (2 * chars.length + 2) depthLimit chars
  if (skipSpace rest).isEmpty then some value else none

end LogQuery.Json
