import ReactorNet.Schema.Datum

/-!
# `ReactorNet.Toml.Table` · the tables of a TOML text

The tree that headers and dotted keys build. A table is stated once, by a header or by braces;
before that it may be assumed because a deeper header names it, and after dotted keys have built it
no header may state it. `insert`, `openTable` and `openItem` are the three ways in which a text adds
to the tree; each refuses what would define something twice.
-/

namespace ReactorNet.Toml

open ReactorNet.Schema

/-- How a table came about. -/
inductive Origin where
  /-- A header or braces state it. -/
  | stated
  /-- The header of a deeper table names it. -/
  | assumed
  /-- A dotted key built it. -/
  | dotted
deriving DecidableEq, Repr

/-- What a key holds. -/
inductive Item where
  /-- A finished value. -/
  | value (v : Datum)
  /-- A table. -/
  | table (origin : Origin) (entries : List (String × Item))
  /-- An array of tables: the one at its end, and those before it, the latest first. -/
  | tables (last : List (String × Item)) (earlier : List (List (String × Item)))

/-- The entries of a table. -/
abbrev Entries := List (String × Item)

namespace Entries

/-- Change what a key holds, where the change may be refused. -/
def alter (key : String) (f : Option Item → Option Item) : Entries → Option Entries
  | [] => (f none).map fun item => [(key, item)]
  | (k, item) :: es =>
    if k == key then (f (some item)).map fun item => (k, item) :: es
    else (alter key f es).map ((k, item) :: ·)

/-- Enter a value under a dotted key. The tables on the way are built by the key, or were built by
one before; only the innermost is looked at more closely: it must not come from a header. -/
def insert (v : Datum) : List String → Entries → Option Entries
  | [], _ => none
  | [key], es => es.alter key fun
    | none => some (.value v)
    | some _ => none
  | key :: next :: path, es => es.alter key fun
    | none => (insert v (next :: path) []).map (.table .dotted)
    | some (.table .dotted inner) => (insert v (next :: path) inner).map (.table .dotted)
    | some (.table .assumed inner) =>
      if path.isEmpty then none else (insert v (next :: path) inner).map (.table .assumed)
    | some (.tables last earlier) =>
      if path.isEmpty then none else (insert v (next :: path) last).map (.tables · earlier)
    | some _ => none

/-- Go down the path of a header and change what is found there. Tables that are missing on the way
are assumed; an array of tables is entered at its end. -/
def descend (f : Entries → Option Entries) : List String → Entries → Option Entries
  | [], es => f es
  | key :: path, es => es.alter key fun
    | none => (descend f path []).map (.table .assumed)
    | some (.table origin inner) => (descend f path inner).map (.table origin)
    | some (.tables last earlier) => (descend f path last).map (.tables · earlier)
    | some (.value _) => none

/-- State the table that a header names. -/
def openTable (path : List String) (es : Entries) : Option Entries := do
  let key ← path.getLast?
  es.descend (alter key fun
    | none => some (.table .stated [])
    | some (.table .assumed inner) => some (.table .stated inner)
    | some _ => none) path.dropLast

/-- Add an item to the array of tables that a header names. -/
def openItem (path : List String) (es : Entries) : Option Entries := do
  let key ← path.getLast?
  es.descend (alter key fun
    | none => some (.tables [] [])
    | some (.tables last earlier) => some (.tables [] (last :: earlier))
    | some _ => none) path.dropLast

end Entries

mutual

/-- What a key holds, as a typed value. -/
def Item.toDatum : Item → Datum
  | .value v => v
  | .table _ es => .map (Item.toPairs es)
  | .tables last earlier => .list (Item.toMaps earlier [.map (Item.toPairs last)])

/-- Entries as pairs of typed values. -/
def Item.toPairs : List (String × Item) → List (Datum × Datum)
  | [] => []
  | (k, item) :: es => (.text k, item.toDatum) :: Item.toPairs es

/-- Put tables, given in reverse order, in front of typed values. -/
def Item.toMaps : List (List (String × Item)) → List Datum → List Datum
  | [], acc => acc
  | es :: rest, acc => Item.toMaps rest (.map (Item.toPairs es) :: acc)

end

/-- A table as a typed value. -/
def Entries.toDatum (es : Entries) : Datum := .map (Item.toPairs es)

end ReactorNet.Toml
