import LogQuery.Toml.Basic

/-!
# Settings

A tree of settings, into which values are put by their paths.  A path names a member or an item at
each step; what is missing on the way is created, and what is in the way is replaced.
-/

namespace LogQuery.Config

/-- A setting, or a table or list of settings. -/
inductive Setting where
  /-- A place that has no value yet. -/
  | unset
  | text (value : String)
  | integer (value : Int)
  | float (value : Float)
  | boolean (value : Bool)
  | list (items : List Setting)
  | table (entries : List (String × Setting))

/-- A step of a path.  A negative index counts from the end of the list. -/
inductive PathStep where
  | member (name : String)
  | item (index : Int)
  deriving Repr, DecidableEq

/-- A path through settings. -/
abbrev SettingPath := List PathStep

namespace Setting

mutual

/-- A TOML value as a setting. -/
def ofToml : Toml → Setting
  | .string value => .text value
  | .integer value => .integer value
  | .float value => .float value
  | .boolean value => .boolean value
  | .datetime written => .text written
  | .array items => .list (ofTomlItems items)
  | .table entries => .table (ofTomlEntries entries)

/-- The items of a TOML array as settings. -/
def ofTomlItems : List Toml → List Setting
  | [] => []
  | item :: items => ofToml item :: ofTomlItems items

/-- The entries of a TOML table as settings. -/
def ofTomlEntries : List (String × Toml) → List (String × Setting)
  | [] => []
  | (name, value) :: entries => (name, ofToml value) :: ofTomlEntries entries

end

/-- The entries of a table; any other setting has none. -/
def entries : Setting → List (String × Setting)
  | .table entries => entries
  | _ => []

/-- The items of a list; any other setting has none. -/
def items : Setting → List Setting
  | .list items => items
  | _ => []

/-- The setting under a name. -/
def member? (setting : Setting) (name : String) : Option Setting :=
  setting.entries.lookup name

/-- Change the entry with a name, which is created if it is missing. -/
def modifyEntry (name : String) (change : Setting → Setting) :
    List (String × Setting) → List (String × Setting)
  | [] => [(name, change .unset)]
  | (key, value) :: entries =>
      if key == name then (key, change value) :: entries
      else (key, value) :: modifyEntry name change entries

/-- Change the item at an index.  A list that is too short is filled up, at its front if the index
counts from the end. -/
def modifyItem (index : Int) (change : Setting → Setting) (items : List Setting) : List Setting :=
  if 0 ≤ index then
    let position := index.toNat
    (items ++ List.replicate (position + 1 - items.length) unset).modify position change
  else
    let fromEnd := (-index).toNat
    let filled := List.replicate (fromEnd - items.length) unset ++ items
    filled.modify (filled.length - fromEnd) change

/-- Change the setting at a path. -/
def modifyAt (change : Setting → Setting) : SettingPath → Setting → Setting
  | [], setting => change setting
  | .member name :: path, setting =>
      .table (modifyEntry name (modifyAt change path) setting.entries)
  | .item index :: path, setting =>
      .list (modifyItem index (modifyAt change path) setting.items)

mutual

/-- Put a value over a setting.  A table is merged into a table entry by entry; any other value
replaces what was there. -/
def overlay : (value : Setting) → (base : Setting) → Setting
  | .table entries, base => .table (overlayEntries entries base.entries)
  | value, _ => value

/-- Put entries over those of a table. -/
def overlayEntries :
    (entries base : List (String × Setting)) → List (String × Setting)
  | [], base => base
  | (name, value) :: entries, base =>
      overlayEntries entries (modifyEntry name (overlay value) base)

end

/-- Put a value at a path. -/
def put (setting : Setting) (path : SettingPath) (value : Setting) : Setting :=
  modifyAt (overlay value) path setting

end Setting

/-- Whether a character may stand in a name of a written path. -/
def isPathNameChar (c : Char) : Bool :=
  c.isAlphanum || c == '_' || c == '-'

/-- Whether a character may surround an index. -/
def isPathBlank (c : Char) : Bool :=
  c == ' ' || c == '\t'

namespace SettingPath

/-- Read the index in front of a closing bracket. -/
def readIndex? (text : List Char) : Option (Int × List Char) := do
  let text := text.dropWhile isPathBlank
  let (negative, text) :=
    match text with
    | '-' :: text => (true, text)
    | text => (false, text)
  let digits := text.takeWhile Char.isDigit
  if digits.isEmpty then none
  let size : Int := Nat.ofDigitChars 10 digits 0
  let index := if negative then -size else size
  if index < -9223372036854775808 ∨ 9223372036854775807 < index then none
  match (text.drop digits.length).dropWhile isPathBlank with
  | ']' :: rest => some (index, rest)
  | _ => none

/-- Read the steps behind the first name, with a bound on their number. -/
def readSteps? : Nat → List Char → Option SettingPath
  | _, [] => some []
  | 0, _ => none
  | bound + 1, '.' :: text =>
      let name := text.takeWhile isPathNameChar
      if name.isEmpty then none
      else (.member (String.ofList name) :: ·) <$> readSteps? bound (text.drop name.length)
  | bound + 1, '[' :: text => do
      let (index, rest) ← readIndex? text
      (.item index :: ·) <$> readSteps? bound rest
  | _, _ => none

/-- Read a written path: names joined by points, and indices in brackets.  A text of another form is
a name itself. -/
def ofString (text : String) : SettingPath :=
  let characters := text.toList
  let root := characters.takeWhile isPathNameChar
  match readSteps? characters.length (characters.drop root.length) with
  | some steps =>
      if root.isEmpty then [.member text] else .member (String.ofList root) :: steps
  | none => [.member text]

end SettingPath

end LogQuery.Config
