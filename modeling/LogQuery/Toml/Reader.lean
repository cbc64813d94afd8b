import LogQuery.Toml.Scalar
import LogQuery.Toml.Table

/-!
# Reading TOML

A document is read line by line.  The table that the last header named is kept apart and is put in
its place when the next header or the end comes.
-/

namespace LogQuery.Toml

/-- Characters of a key without quotes. -/
def isBareKey (c : Char) : Bool :=
  c.isAlphanum || c == '_' || c == '-'

/-- One part of a key. -/
def readSimpleKey (edition : Edition) (text : List Char) : Result (String × List Char) :=
  match text with
  | '"' :: rest => do
      let (key, left) ← readBasic edition (text.length + 1) rest
      .ok (String.ofList key, left)
  | '\'' :: rest => do
      let (key, left) ← readLiteral rest
      .ok (String.ofList key, left)
  | _ =>
      let (key, left) := text.span isBareKey
      if key.isEmpty then .error .malformed else .ok (String.ofList key, left)

/-- The parts of a key with points between them. -/
def readKey (edition : Edition) : Nat → List Char → Result (List String × List Char)
  | 0, _ => .error .malformed
  | fuel + 1, text => do
      let (part, rest) ← readSimpleKey edition (skipSpace text)
      match skipSpace rest with
      | '.' :: rest => do
          let (parts, left) ← readKey edition fuel rest
          .ok (part :: parts, left)
      | left => .ok ([part], left)

/-- White space, comments and line breaks. -/
def skipLines : Nat → List Char → List Char
  | 0, text => text
  | fuel + 1, text =>
      let rest := skipComment (skipSpace text)
      match newline? rest with
      | some rest => skipLines fuel rest
      | none => rest

/-- What may stand between the parts of an inline table. -/
def skipInline (edition : Edition) (text : List Char) : List Char :=
  if edition.openInlineTables then skipLines (text.length + 1) text else skipSpace text

mutual

/-- The value at the front, when `depth` more levels may open. -/
def readValue (edition : Edition) : (fuel depth : Nat) → List Char → Result (Toml × List Char)
  | 0, _, _ => .error .malformed
  | fuel + 1, depth, text =>
      match text with
      | [] => .error .malformed
      | c :: rest =>
          if c == '"' || c == '\'' then do
            let (value, left) ← readString edition text
            .ok (.string value, left)
          else if c == '[' then do
            if depth = 0 then .error .nestedTooDeeply
            let (items, left) ← readItems edition fuel (depth - 1) rest
            .ok (.array items, left)
          else if c == '\x7b' then do
            if depth = 0 then .error .nestedTooDeeply
            match skipInline edition rest with
            | '\x7d' :: left => .ok (.table [], left)
            | rest =>
                let (entries, left) ← readMembers edition fuel (depth - 1) [] rest
                .ok ((Node.table false false entries).finish, left)
          else
            match text with
            | 't' :: 'r' :: 'u' :: 'e' :: left => .ok (.boolean true, left)
            | 'f' :: 'a' :: 'l' :: 's' :: 'e' :: left => .ok (.boolean false, left)
            | _ =>
                match readDatetime? edition text with
                | some (written, left) => .ok (.datetime (String.ofList written), left)
                | none => readNumber edition text

/-- The items of an array up to its closing bracket; a comma may follow the last one. -/
def readItems (edition : Edition) : (fuel depth : Nat) → List Char → Result (List Toml × List Char)
  | 0, _, _ => .error .malformed
  | fuel + 1, depth, text =>
      match skipLines (text.length + 1) text with
      | ']' :: left => .ok ([], left)
      | text => do
          let (item, rest) ← readValue edition fuel depth text
          match skipLines (rest.length + 1) rest with
          | ',' :: rest => do
              let (items, left) ← readItems edition fuel depth rest
              .ok (item :: items, left)
          | ']' :: left => .ok ([item], left)
          | _ => .error .malformed

/-- The members of an inline table up to its closing brace, added to those before them. -/
def readMembers (edition : Edition) :
    (fuel depth : Nat) → Entries → List Char → Result (Entries × List Char)
  | 0, _, _, _ => .error .malformed
  | fuel + 1, depth, entries, text => do
      let (path, key, value, rest) ← readPair edition (skipInline edition) fuel depth text
      let entries ← entries.addValue edition path key value
      match skipInline edition rest with
      | ',' :: rest =>
          match skipInline edition rest with
          | '\x7d' :: left =>
              if edition.openInlineTables then .ok (entries, left) else .error .malformed
          | rest => readMembers edition fuel depth entries rest
      | '\x7d' :: left => .ok (entries, left)
      | _ => .error .malformed

/-- A key, an equals sign and a value: the path of the key, its last part, the value and the rest.
What may stand around the equals sign depends on the place. -/
def readPair (edition : Edition) (skip : List Char → List Char) :
    (fuel depth : Nat) → List Char → Result (List String × String × Toml × List Char)
  | 0, _, _ => .error .malformed
  | fuel + 1, depth, text => do
      let (parts, rest) ← readKey edition (text.length + 1) text
      if edition.nestLimit < parts.length then .error .nestedTooDeeply
      match skip rest with
      | '=' :: rest => do
          let (value, left) ← readValue edition fuel depth (skip rest)
          .ok (parts.dropLast, parts.getLastD "", value, left)
      | _ => .error .malformed

end

/-- A document under construction: the finished part, and the table that the last header named. -/
structure Draft where
  root : Entries
  path : List String
  current : Entries
  /-- Whether the header stood in double brackets. -/
  element : Bool

namespace Draft

/-- Nothing has been read yet. -/
def start : Draft := ⟨[], [], [], false⟩

/-- Put the current table in its place. -/
def close (draft : Draft) : Result Entries :=
  match draft.path.getLast? with
  | none => .ok draft.current
  | some key =>
      let add (_ : Bool) (parent : Entries) : Result Entries :=
        if draft.element then
          match parent.lookup key with
          | none => .ok (parent.put key (.tables [draft.current]))
          | some (.tables elements) =>
              .ok (parent.put key (.tables (elements ++ [draft.current])))
          | some _ => .error (.duplicateKey key)
        else parent.insertNew key (.table false false draft.current)
      draft.root.modify false true add false draft.path.dropLast

/-- Begin the table of a header in single brackets, which may only define a table that is merely
implied. -/
def openTable (draft : Draft) (path : List String) : Result Draft := do
  let root ← draft.close
  let key := path.getLastD ""
  let parentPath := path.dropLast
  let found ← root.modify false true (fun _ parent => .ok parent) false parentPath
  let parent ← entriesAt parentPath found
  match parent.lookup key with
  | none => .ok ⟨found, path, [], false⟩
  | some (.table true false inner) =>
      let root ← found.modify false true (fun _ parent => .ok (parent.erase key)) false parentPath
      .ok ⟨root, path, inner, false⟩
  | some _ => .error (.duplicateKey key)
where
  /-- The entries of the table at the end of a path that exists. -/
  entriesAt : List String → Entries → Result Entries
    | [], entries => .ok entries
    | key :: path, entries =>
        match entries.lookup key with
        | some (.table _ _ inner) => entriesAt path inner
        | some (.tables elements) => entriesAt path (elements.getLastD [])
        | _ => .error (.noTable key)

/-- Begin the next table of an array. -/
def openElement (draft : Draft) (path : List String) : Result Draft := do
  let root ← draft.close
  let key := path.getLastD ""
  let check (_ : Bool) (parent : Entries) : Result Entries :=
    match parent.lookup key with
    | none | some (.tables _) => .ok parent
    | some _ => .error (.duplicateKey key)
  let root ← root.modify false true check false path.dropLast
  .ok ⟨root, path, [], true⟩

end Draft

/-- A header, whose first bracket has been read. -/
def readHeader (edition : Edition) (draft : Draft) (text : List Char) :
    Result (Draft × List Char) := do
  let (element, text) := match text with
    | '[' :: rest => (true, rest)
    | _ => (false, text)
  let (path, rest) ← readKey edition (text.length + 1) text
  if edition.nestLimit < path.length then .error .nestedTooDeeply
  match element, rest with
  | true, ']' :: ']' :: left => .ok (← draft.openElement path, left)
  | false, ']' :: left => .ok (← draft.openTable path, left)
  | _, _ => .error .malformed

/-- The lines of a document. -/
def readLines (edition : Edition) : Nat → Draft → List Char → Result Draft
  | 0, _, _ => .error .malformed
  | fuel + 1, draft, text => do
      let (draft, rest) ←
        match skipSpace text with
        | [] => .ok (draft, [])
        | '[' :: rest => readHeader edition draft rest
        | c :: rest =>
            if c == '#' || (newline? (c :: rest)).isSome then .ok (draft, c :: rest)
            else do
              let (path, key, value, left) ←
                readPair edition skipSpace (4 * rest.length + 4) edition.nestLimit (c :: rest)
              let current ← draft.current.addValue edition path key value
              .ok ({ draft with current }, left)
      match skipComment (skipSpace rest) with
      | [] => .ok draft
      | rest =>
          match newline? rest with
          | some rest => readLines edition fuel draft rest
          | none => .error .malformed

/-- Read a document of an edition. -/
def read (edition : Edition) (text : String) : Result Toml := do
  let chars := match text.toList with
    | '\uFEFF' :: rest => rest
    | chars => chars
  let draft ← readLines edition (chars.length + 1) .start chars
  let entries ← draft.close
  .ok (.table (finishEntries entries))

end LogQuery.Toml
