import LogQuery.Toml.Basic

/-!
# Tables under construction

While a document is read, a table remembers how it came about.  A table that a longer header or a
dotted key implied may still be filled; one that was written out is closed to dotted keys, and a
header may define a table once.  The editions differ on a table that only a longer header implied:
edition 1.1 lets dotted keys add to it.
-/

namespace LogQuery.Toml

/-- A value or an unfinished table. -/
inductive Node where
  | value (value : Toml)
  /-- A table; `implied` when no header or brace of its own has defined it, and `dotted` when a
  dotted key has. -/
  | table (implied dotted : Bool) (entries : List (String × Node))
  /-- The tables of an array that headers in double brackets make. -/
  | tables (elements : List (List (String × Node)))

/-- The entries of an unfinished table. -/
abbrev Entries := List (String × Node)

namespace Entries

/-- Replace the node under a key, or add it. -/
def put (key : String) (node : Node) : Entries → Entries
  | [] => [(key, node)]
  | (other, old) :: rest =>
      if other == key then (key, node) :: rest else (other, old) :: put key node rest

/-- The entries without a key. -/
def erase (key : String) (entries : Entries) : Entries :=
  entries.filter (·.1 != key)

/-- Add a node under a key that is not there yet. -/
def insertNew (key : String) (node : Node) (entries : Entries) : Except DocumentError Entries :=
  if (entries.lookup key).isSome then .error (.duplicateKey key) else .ok (entries ++ [(key, node)])

/-- Change the table at the end of a path, creating the tables on the way.  `byKey` is set when the
path belongs to a dotted key and not to a header, and `intoArrays` when it may pass through the last
table of an array.  The change is told whether the table was made by a dotted key. -/
def modify (byKey intoArrays : Bool)
    (change : (dotted : Bool) → Entries → Except DocumentError Entries) :
    (dotted : Bool) → List String → Entries → Except DocumentError Entries
  | dotted, [], entries => change dotted entries
  | _, key :: path, entries =>
      match entries.lookup key with
      | none => do
          let inner ← modify byKey intoArrays change byKey path []
          .ok (entries.put key (.table true byKey inner))
      | some (.value _) => .error (.noTable key)
      | some (.table implied dotted inner) => do
          if byKey && !implied then .error (.duplicateKey key)
          let inner ← modify byKey intoArrays change dotted path inner
          .ok (entries.put key (.table implied dotted inner))
      | some (.tables elements) =>
          match elements.getLast? with
          | none => .error (.noTable key)
          | some last => do
              if !intoArrays then .error (.noTable key)
              let inner ← modify byKey intoArrays change false path last
              .ok (entries.put key (.tables (elements.dropLast ++ [inner])))

/-- Add a value under a key, which may be dotted: `path` leads to the table that gets the value.  A
dotted key may go into a table made by dotted keys and, where the edition says so, into one that is
merely implied. -/
def addValue (edition : Edition) (path : List String) (key : String) (value : Toml)
    (entries : Entries) : Except DocumentError Entries :=
  modify true (!edition.keysExtendImplied)
    (fun dotted inner =>
      if !path.isEmpty && !dotted && !edition.keysExtendImplied then .error (.duplicateKey key)
      else inner.insertNew key (.value value))
    false path entries

end Entries

mutual

/-- The finished value of a node. -/
def Node.finish : Node → Toml
  | .value value => value
  | .table _ _ entries => .table (finishEntries entries)
  | .tables elements => .array (finishElements elements)

/-- The finished entries of a table. -/
def finishEntries : List (String × Node) → List (String × Toml)
  | [] => []
  | (key, node) :: rest => (key, node.finish) :: finishEntries rest

/-- The finished tables of an array. -/
def finishElements : List (List (String × Node)) → List Toml
  | [] => []
  | entries :: rest => .table (finishEntries entries) :: finishElements rest

end

end LogQuery.Toml
