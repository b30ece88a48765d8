import InputBridge.Toml.Value
/-!
# How the tables of a document come together

A document names its tables in three ways: by a header, by a dotted key, and as
the way to either. A table is opened by a header at most once; the way to a table
may be opened by a header later, but a table made by dotted keys may not, and
dotted keys do not reach into a table that a header opened. A header in double
brackets starts the next table of an array of tables, and whatever leads through
such an array leads through its latest table. A key is set at most once.

Values written in line, tables among them, are complete; nothing can be added to
them.
-/
namespace InputBridge.Toml

/-- How a table came to be. -/
inductive Origin where
  /-- By a header, or as the document itself. -/
  | header
  /-- As the way to a table with a header. -/
  | implied
  /-- By a dotted key. -/
  | dotted
deriving DecidableEq, Repr

/-- What is under a key while the document is being read. -/
inductive Node where
  /-- A complete value. -/
  | leaf (value : Value)
  /-- A table. -/
  | table (origin : Origin) (entries : List (String × Node))
  /-- An array of tables, the latest apart. -/
  | tables (earlier : List (List (String × Node))) (latest : List (String × Node))
deriving Inhabited

/-- The keys of a table with what is under them. -/
abbrev Entries := List (String × Node)

namespace Entries

/-- The entries with something under a key, in place of what was there. -/
def replace (key : String) (node : Node) (entries : Entries) : Entries :=
  if (lookup key entries).isSome then
    entries.map fun (known, old) => if known == key then (known, node) else (known, old)
  else entries ++ [(key, node)]

/-- Changes the table that a path leads to, making tables of the given origin
where there are none. The change is told how the table came to be. -/
def modifyAt (made : Origin) (change : Origin → Entries → Option Entries) :
    List String → Origin → Entries → Option Entries
  | [], origin, entries => change origin entries
  | key :: path, _, entries =>
    match lookup key entries with
    | none =>
      (modifyAt made change path made []).map fun inner => entries.replace key (.table made inner)
    | some (.leaf _) => none
    | some (.table origin inner) =>
      if made = .dotted ∧ origin = .header then none
      else
        (modifyAt made change path origin inner).map fun inner =>
          entries.replace key (.table origin inner)
    | some (.tables earlier latest) =>
      (modifyAt made change path .header latest).map fun latest =>
        entries.replace key (.tables earlier latest)

/-- Sets a key to a value. The key of a dotted key's last part must be in a table
that dotted keys made. -/
def set (path : List String) (key : String) (value : Value) (entries : Entries) : Option Entries :=
  modifyAt .dotted
    (fun origin entries =>
      if path ≠ [] ∧ origin ≠ .dotted then none
      else if (lookup key entries).isSome then none
      else some (entries ++ [(key, .leaf value)]))
    path .header entries

/-- Opens a table. -/
def openTable (path : List String) (key : String) (entries : Entries) : Option Entries :=
  modifyAt .implied
    (fun _ entries =>
      match lookup key entries with
      | none => some (entries ++ [(key, .table .header [])])
      | some (.table .implied inner) => some (entries.replace key (.table .header inner))
      | some _ => none)
    path .header entries

/-- Starts the next table of an array of tables. -/
def openNext (path : List String) (key : String) (entries : Entries) : Option Entries :=
  modifyAt .implied
    (fun _ entries =>
      match lookup key entries with
      | none => some (entries ++ [(key, .tables [] [])])
      | some (.tables earlier latest) =>
        some (entries.replace key (.tables (earlier ++ [latest]) []))
      | some _ => none)
    path .header entries

/-- Sets a key in the table that a header opened. -/
def setWithin (header : List String) (path : List String) (key : String) (value : Value)
    (entries : Entries) : Option Entries :=
  modifyAt .implied (fun _ inner => set path key value inner) header .header entries

end Entries

mutual

/-- The value that a node has become. -/
def Node.toValue : Node → Value
  | .leaf value => value
  | .table _ entries => .table (valuesOf entries)
  | .tables earlier latest => .array (tablesOf earlier ++ [.table (valuesOf latest)])

/-- The values under the keys of a table. -/
def valuesOf : List (String × Node) → List (String × Value)
  | [] => []
  | (key, node) :: rest => (key, node.toValue) :: valuesOf rest

/-- The tables of an array. -/
def tablesOf : List (List (String × Node)) → List Value
  | [] => []
  | entries :: rest => .table (valuesOf entries) :: tablesOf rest

end

end InputBridge.Toml
