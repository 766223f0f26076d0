import Adventure.Toml.Value

/-!
# Trees of tables

A document builds its tables step by step, by headers and by dotted keys, and a table is not always
open to more entries.  Every table therefore remembers how it came to be.

* A header opens a table once.  A table on the way to a deeper header may still be opened; one that
  a dotted key made, or a value, may not.
* A dotted key passes the tables on its way unless a header has opened them, and ends in a table
  that dotted keys made.
* A header and a dotted key that meet a list of tables go on in its last table.

## Main definitions

* `Node`: what stands under a key.
* `Node.assign`: gives a dotted key its value.
* `Node.openTable`: opens the table of a header and fills it.
* `Node.toValue`: the value of a tree.
-/

namespace Adventure.Toml

/-- How a table came to be. -/
inductive Origin where
  /-- A header opened it. -/
  | header
  /-- It is on the way of a header. -/
  | passage
  /-- It is on the way of a dotted key. -/
  | dotted
  deriving DecidableEq

/-- What stands under a key: a value, a table, or a list of tables with the last one apart and the
others before it, the latest first. -/
inductive Node where
  | value (value : Value)
  | table (origin : Origin) (entries : List (String × Node))
  | tables (earlier : List (List (String × Node))) (last : List (String × Node))

/-- The entries of a table that is being built. -/
abbrev Entries := List (String × Node)

/-- The keys that lead from a table to an entry. -/
structure Path where
  first : String
  rest : List String

/-- Changes what stands under a key; without an entry there is nothing. -/
def Entries.alter (key : String) (change : Option Node → Option Node) : Entries → Option Entries
  | [] => (change none).map fun node => [(key, node)]
  | (k, node) :: entries =>
    if k = key then (change (some node)).map fun node => (k, node) :: entries
    else (alter key change entries).map ((k, node) :: ·)

namespace Node

/-- Gives a dotted key its value. -/
def assign (value : Value) (key : String) : List String → Entries → Option Entries
  | [] => Entries.alter key fun
    | none => some (.value value)
    | some _ => none
  | next :: rest => Entries.alter key fun
    | none => (assign value next rest []).map (.table .dotted)
    | some (.table origin entries) =>
      if origin = .header ∨ (rest = [] ∧ origin ≠ .dotted) then none
      else (assign value next rest entries).map (.table origin)
    | some (.tables earlier last) =>
      if rest = [] then none else (assign value next rest last).map (.tables earlier)
    | some (.value _) => none

/-- Changes the entries of the table that a header opens; `list` tells whether the header adds a
table to a list of tables. -/
def openTable (list : Bool) (fill : Entries → Option Entries) (key : String) :
    List String → Entries → Option Entries
  | [] => Entries.alter key fun
    | none => (fill []).map (if list then .tables [] else .table .header)
    | some (.table .passage entries) =>
      if list then none else (fill entries).map (.table .header)
    | some (.tables earlier last) =>
      if list then (fill []).map (.tables (last :: earlier)) else none
    | some _ => none
  | next :: rest => Entries.alter key fun
    | none => (openTable list fill next rest []).map (.table .passage)
    | some (.table origin entries) =>
      (openTable list fill next rest entries).map (.table origin)
    | some (.tables earlier last) =>
      (openTable list fill next rest last).map (.tables earlier)
    | some (.value _) => none

mutual

/-- The value of a tree. -/
def toValue : Node → Value
  | value v => v
  | table _ entries => .table (toEntries entries)
  | tables earlier last => .array (toTables [.table (toEntries last)] earlier)

/-- The values of the entries of a table. -/
def toEntries : Entries → List (String × Value)
  | [] => []
  | (key, node) :: entries => (key, node.toValue) :: toEntries entries

/-- The values of tables, the latest first, put in front of the others. -/
def toTables (later : List Value) : List Entries → List Value
  | [] => later
  | entries :: earlier => toTables (.table (toEntries entries) :: later) earlier

end

end Node

/-- The entries that hold the given values under dotted keys. -/
def Entries.assignAll (entries : Entries) (values : List (Path × Value)) : Option Entries :=
  values.foldlM
    (fun entries (path, value) => Node.assign value path.first path.rest entries) entries

end Adventure.Toml
