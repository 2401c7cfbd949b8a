import ElasticGroups.Data.Value

/-!
# TOML tables

The tree that the lines of a TOML document build up. A table may be named by its own header, by
the header of a table inside it, or by a dotted key. How it came to be decides what may still be
added to it: a header opens a table once, and may do so when only headers of tables inside it were
seen; a dotted key adds to tables that dotted keys made, and to no others. A value in a line is
complete as it stands.

## Main definitions

* `Toml.Origin`, `Toml.Node`, `Toml.Entries`: the tree;
* `Toml.openTable?`, `Toml.openItem?`, `Toml.assign?`: the effect of the three kinds of lines;
* `Toml.Entries.toFields`: the record that the tree denotes.
-/

namespace ElasticGroups.Data.Toml

/-- How a table came to be. -/
inductive Origin
  /-- By its own header. -/
  | header
  /-- By the header of a table inside it. -/
  | implied
  /-- By a dotted key. -/
  | dotted
  deriving DecidableEq, Repr, Inhabited

/-- What a key stands for. -/
inductive Node
  /-- A complete value. -/
  | leaf (v : Value)
  /-- A table. -/
  | table (origin : Origin) (entries : List (String × Node))
  /-- A list of tables. -/
  | tables (items : List (List (String × Node)))
  deriving Repr, Inhabited

/-- The entries of a table in order. -/
abbrev Entries := List (String × Node)

namespace Entries

/-- Give an existing key a new node. -/
def replace (key : String) (node : Node) (entries : Entries) : Entries :=
  entries.map fun entry => if entry.1 = key then (key, node) else entry

/-- Remove a key. -/
def erase (key : String) (entries : Entries) : Entries :=
  entries.filter fun entry => entry.1 ≠ key

/-- Follow a path of keys into a table and change the table at its end. Missing tables on the way
are made. In a list of tables the path goes on in the last one. A dotted key does not pass through
a table that has a header of its own. -/
def changeAt (dotted : Bool) (change : Origin → Entries → Option Entries) :
    List String → Origin → Entries → Option Entries
  | [], origin, entries => change origin entries
  | key :: path, _, entries =>
    match entries.lookup key with
    | none => do
      let origin := if dotted then .dotted else .implied
      let inner ← changeAt dotted change path origin []
      return entries ++ [(key, .table origin inner)]
    | some (.leaf _) => none
    | some (.table origin inner) =>
      if dotted = true ∧ origin = .header then none
      else do
        let inner ← changeAt dotted change path origin inner
        return replace key (.table origin inner) entries
    | some (.tables items) =>
      match items.getLast? with
      | none => none
      | some last => do
        let last ← changeAt dotted change path .header last
        return replace key (.tables (items.dropLast ++ [last])) entries

end Entries

/-- Add a value under a new key. A key alone adds to a table with a header, and a dotted key to a
table that was made by dotted keys. -/
def addLeaf (path : List String) (key : String) (v : Value) (origin : Origin) (entries : Entries) :
    Option Entries :=
  if origin = .dotted ↔ path = [] then none
  else if (entries.lookup key).isSome then none
  else some (entries ++ [(key, .leaf v)])

/-- Split a path into the keys in front and the last one. -/
def splitLast? (path : List String) : Option (List String × String) :=
  path.getLast?.map (path.dropLast, ·)

/-- Assign a value to a dotted key within a table that has a header. -/
def assign? (keys : List String) (v : Value) (entries : Entries) : Option Entries := do
  let (path, key) ← splitLast? keys
  Entries.changeAt true (addLeaf path key v) path .header entries

/-- Assign a value to a dotted key within the table at a path of headers. -/
def assignIn? (scope : List String) (keys : List String) (v : Value) (root : Entries) :
    Option Entries :=
  Entries.changeAt false (fun _ entries => assign? keys v entries) scope .header root

/-- Open the table at a path. It stands behind the entries that its parent has so far. -/
def openTable? (keys : List String) (root : Entries) : Option Entries := do
  let (path, key) ← splitLast? keys
  Entries.changeAt false (fun _ entries =>
    match entries.lookup key with
    | none => some (entries ++ [(key, .table .header [])])
    -- Headers of tables inside it may have come first: its entries stay, and its place moves.
    | some (.table .implied inner) => some (entries.erase key ++ [(key, .table .header inner)])
    | some _ => none) path .header root

/-- Open one more table in the list of tables at a path. -/
def openItem? (keys : List String) (root : Entries) : Option Entries := do
  let (path, key) ← splitLast? keys
  Entries.changeAt false (fun _ entries =>
    match entries.lookup key with
    | none => some (entries ++ [(key, .tables [[]])])
    | some (.tables items) => some (entries.replace key (.tables (items ++ [[]])))
    | some _ => none) path .header root

mutual

/-- The value that a node denotes. -/
def Node.toValue : Node → Value
  | .leaf v => v
  | .table _ entries => .record (Entries.toFields entries)
  | .tables items => .list (Entries.toRecords items)

/-- The fields of the record that a table denotes. -/
def Entries.toFields : List (String × Node) → List (String × Value)
  | [] => []
  | (key, node) :: rest => (key, node.toValue) :: Entries.toFields rest

/-- The records that a list of tables denotes. -/
def Entries.toRecords : List (List (String × Node)) → List Value
  | [] => []
  | entries :: rest => .record (Entries.toFields entries) :: Entries.toRecords rest

end

end ElasticGroups.Data.Toml
