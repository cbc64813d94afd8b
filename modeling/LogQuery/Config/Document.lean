import LogQuery.Json.Basic
import LogQuery.Toml.Basic

/-!
# Documents

What a configuration looks at in JSON and in TOML alike: texts, lists and tables.  A record may be
written as a table, or as a list of its fields in their order.
-/

namespace LogQuery.Config

/-- A part of a configuration. -/
inductive Document where
  | text (value : String)
  | list (items : List Document)
  | table (entries : List (String × Document))
  /-- A value of any other kind. -/
  | other
  /-- A value that can only be skipped. -/
  | unreadable

/-- How a format treats a list that has more items than the record has fields. -/
inductive Surplus where
  | refused
  | ignored
  deriving Repr, DecidableEq

namespace Document

mutual

/-- A JSON value as a document. -/
def ofJson : Json → Document
  | .string value => .text value
  | .array items => .list (ofJsonItems items)
  | .object members => .table (ofJsonMembers members)
  | .unreadable => .unreadable
  | _ => .other

/-- The items of a JSON array as documents. -/
def ofJsonItems : List Json → List Document
  | [] => []
  | item :: items => ofJson item :: ofJsonItems items

/-- The members of a JSON object as documents. -/
def ofJsonMembers : List (String × Json) → List (String × Document)
  | [] => []
  | (name, value) :: members => (name, ofJson value) :: ofJsonMembers members

end

mutual

/-- A TOML value as a document. -/
def ofToml : Toml → Document
  | .string value => .text value
  | .array items => .list (ofTomlItems items)
  | .table entries => .table (ofTomlEntries entries)
  | _ => .other

/-- The items of a TOML array as documents. -/
def ofTomlItems : List Toml → List Document
  | [] => []
  | item :: items => ofToml item :: ofTomlItems items

/-- The entries of a TOML table as documents. -/
def ofTomlEntries : List (String × Toml) → List (String × Document)
  | [] => []
  | (key, value) :: entries => (key, ofToml value) :: ofTomlEntries entries

end

mutual

/-- Whether a document can be read down to its last part. -/
def isReadable : Document → Bool
  | .unreadable => false
  | .list items => allReadable items
  | .table entries => entriesReadable entries
  | _ => true

/-- Whether all items can be read. -/
def allReadable : List Document → Bool
  | [] => true
  | item :: items => item.isReadable && allReadable items

/-- Whether all entries can be read. -/
def entriesReadable : List (String × Document) → Bool
  | [] => true
  | (_, value) :: entries => value.isReadable && entriesReadable entries

end

/-- A text. -/
def text? : Document → Option String
  | .text value => some value
  | _ => none

/-- A list of texts. -/
def texts? : Document → Option (List String)
  | .list items => items.mapM text?
  | _ => none

/-- The fields of a record by name, in the order of the names.  A field may be missing but not given
twice; other entries of a table do not matter. -/
def fields? (surplus : Surplus) (names : List String) : Document → Option (List (Option Document))
  | .table entries =>
      if names.any fun name => 1 < (entries.filter (·.1 == name)).length then none
      else some (names.map (List.lookup · entries))
  | .list items =>
      if surplus = .refused ∧ names.length < items.length then none
      else some ((List.range names.length).map (items[·]?))
  | _ => none

/-- A field with a default. -/
def getOr {α : Type} (field : Option Document) (default : α) (read : Document → Option α) :
    Option α :=
  match field with
  | some document => read document
  | none => some default

end Document

end LogQuery.Config
