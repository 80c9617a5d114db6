import NativeViews.Toml.Basic

/-!
Tables while a document is read. A table remembers how it came to be, because that decides who
may still add to it.
-/

namespace NativeViews.Toml

/-- How a table came to be. -/
inductive Origin where
  /-- A header names it. -/
  | header
  /-- A header names a table inside it. -/
  | superTable
  /-- A key with dots leads through it. -/
  | dotted
  deriving DecidableEq, Repr

/-- A table, or something inside one, while a document is read. -/
inductive Node where
  /-- A value, to which nothing can be added. -/
  | leaf (value : Toml)
  | table (origin : Origin) (entries : List (String × Node))
  /-- An array of tables that headers name, the last one first. -/
  | tables (last : List (String × Node)) (before : List (List (String × Node)))

/-- The entries of a table while a document is read, in order. -/
abbrev Entries := List (String × Node)

namespace Entries

/-- Entries with the node under a key replaced by its image, or with a new one at the end. -/
def update (key : String) (change : Option Node → Option Node) : Entries → Option Entries
  | [] => (change none).map fun node => [(key, node)]
  | (other, node) :: rest =>
    if other = key then (change (some node)).map fun node => (key, node) :: rest
    else (update key change rest).map ((other, node) :: ·)

/-- Entries after a change behind a path of keys in a header. Missing tables arise on the way,
and of an array of tables the last one is meant. -/
def below : List String → (Entries → Option Entries) → Entries → Option Entries
  | [], change => change
  | key :: path, change =>
    update key fun
      | none => (below path change []).map (.table .superTable)
      | some (.table origin entries) => (below path change entries).map (.table origin)
      | some (.tables last before) => (below path change last).map (.tables · before)
      | some (.leaf _) => none

/-- Entries after a header for a table. It may name a table that only others implied. -/
def openTable (key : String) : Entries → Option Entries :=
  update key fun
    | none => some (.table .header [])
    | some (.table .superTable entries) => some (.table .header entries)
    | _ => none

/-- Entries after a header for one more table of an array. -/
def openItem (key : String) : Entries → Option Entries :=
  update key fun
    | none => some (.tables [] [])
    | some (.tables last before) => some (.tables [] (last :: before))
    | _ => none

/-- Entries after a key with a value. The key must be new. Where it has dots, it may lead through
any tables that no header names; they count as its own from then on. It may also lead through the
last one of an array of tables, but not end in it. -/
def insert (value : Toml) : List String → Entries → Option Entries
  | [], _ => none
  | [key], entries =>
    update key (fun
      | none => some (.leaf value)
      | some _ => none) entries
  | key :: next :: path, entries =>
    update key (fun
      | none => (insert value (next :: path) []).map (.table .dotted)
      | some (.table .header _) | some (.leaf _) => none
      | some (.table _ inner) => (insert value (next :: path) inner).map (.table .dotted)
      | some (.tables last before) =>
        if path.isEmpty then none
        else (insert value (next :: path) last).map (.tables · before)) entries

end Entries

mutual

/-- The finished form of a node. -/
def Node.toValue : Node → Toml
  | .leaf value => value
  | .table _ entries => .table (Node.toValues entries)
  | .tables last before =>
    .array ((Node.toTables before).reverse ++ [.table (Node.toValues last)])

def Node.toValues : List (String × Node) → List (String × Toml)
  | [] => []
  | (key, node) :: rest => (key, node.toValue) :: Node.toValues rest

def Node.toTables : List (List (String × Node)) → List Toml
  | [] => []
  | entries :: rest => .table (Node.toValues entries) :: Node.toTables rest

end

end NativeViews.Toml
