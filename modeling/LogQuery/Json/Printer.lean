import LogQuery.Decimal.Style
import LogQuery.Json.Basic
import LogQuery.Json.Text
import Std.Data.ExtTreeMap

/-!
# Writing JSON

The compact form: no white space, members in ascending order of their names, and of two members with
one name the later one.
-/

namespace LogQuery.Json

open LogQuery.Decimal

/-- Doubles are written positionally from 0.00001 up to below 10 ^ 16, whole ones with a point. -/
def doubleStyle : Style := ⟨some (-5), some 15, true⟩

/-- Texts by name, each name once. -/
abbrev Rendered := Std.ExtTreeMap String (List Char) compare

/-- Parts with a comma between them. -/
def joinComma (parts : List (List Char)) : List Char :=
  [','].intercalate parts

mutual

/-- The characters of a value. -/
def writeChars : Json → List Char
  | .null => ['n', 'u', 'l', 'l']
  | .bool true => ['t', 'r', 'u', 'e']
  | .bool false => ['f', 'a', 'l', 's', 'e']
  | .integer value => (toString value).toList
  | .double value => (doubleStyle.write value).toList
  | .string value => writeText value
  | .array items => '[' :: joinComma (writeItems items) ++ [']']
  | .object members =>
      let written := (writeMembers members ∅).toList.map fun (name, value) =>
        writeText name ++ ':' :: value
      '\x7b' :: joinComma written ++ ['\x7d']
  | .unreadable => []

/-- The characters of each item. -/
def writeItems : List Json → List (List Char)
  | [] => []
  | item :: items => item.writeChars :: writeItems items

/-- The characters of the members by name, added to those before them. -/
def writeMembers : List (String × Json) → Rendered → Rendered
  | [], rendered => rendered
  | (name, value) :: members, rendered =>
      writeMembers members (rendered.insert name value.writeChars)

end

/-- The compact text of a value. -/
def write (value : Json) : String :=
  String.ofList value.writeChars

end LogQuery.Json
