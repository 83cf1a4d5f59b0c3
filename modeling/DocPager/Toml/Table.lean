import DocPager.Toml.Scalar

/-!
Tables and the rules by which they grow.  No key is given twice, and a table is opened by at most
one header.  A table that only stands in the way of a deeper one may still be opened later; one
made by a key with dots may not.
-/

namespace DocPager.Toml

inductive Value where
  | text (s : String)
  | scalar (s : Scalar)
  | array (items : List Value)
  /-- A table in braces, with the keys as they are written. -/
  | record (entries : List (List String × Value))

inductive TableKind where
  | opened
  /-- By the header of a table inside it. -/
  | implied
  | dotted
  deriving DecidableEq, Repr

inductive Item where
  | value (v : Value)
  | table (kind : TableKind) (entries : List (String × Item))
  /-- An array of tables, newest first. -/
  | tables (elements : List (List (String × Item)))

/-- The keys of a table and what they stand for. -/
abbrev Entries := List (String × Item)

namespace Entries

/-- Puts another item in the place of the one under `key`. -/
def replace (key : String) (item : Item) (entries : Entries) : Entries :=
  entries.map fun e => if e.1 == key then (key, item) else e

/-- Adds a value under a key with dots, `none` if that is against the rules.  `mayTake` tells if
the table takes keys at this place. -/
def insert? (mayTake : Bool) (path : List String) (v : Value) (entries : Entries) :
    Option Entries :=
  match path with
  | [] => none
  | key :: path =>
    match entries.lookup key with
    | none =>
      if path.isEmpty then if mayTake then some (entries ++ [(key, .value v)]) else none
      else (insert? true path v []).map fun inner => entries ++ [(key, .table .dotted inner)]
    | some (.value _) => none
    | some (.table kind inner) =>
      if path.isEmpty || kind = .opened then none
      else (insert? (kind = .dotted) path v inner).map fun inner =>
        replace key (.table kind inner) entries
    | some (.tables (last :: older)) =>
      if path.isEmpty then none
      else (insert? false path v last).map fun last => replace key (.tables (last :: older)) entries
    | some (.tables []) => none

/-- Opens a table, or a new element of an array of tables if `many` is true. -/
def open? (many : Bool) (path : List String) (entries : Entries) : Option Entries :=
  match path with
  | [] => none
  | key :: path =>
    match entries.lookup key with
    | none =>
      if path.isEmpty then
        some (entries ++ [(key, if many then .tables [[]] else .table .opened [])])
      else (open? many path []).map fun inner => entries ++ [(key, .table .implied inner)]
    | some (.value _) => none
    | some (.table kind inner) =>
      if path.isEmpty then
        if !many && kind = .implied then some (replace key (.table .opened inner) entries) else none
      else (open? many path inner).map fun inner => replace key (.table kind inner) entries
    | some (.tables elements) =>
      if path.isEmpty then
        if many then some (replace key (.tables ([] :: elements)) entries) else none
      else
        match elements with
        | last :: older =>
          (open? many path last).map fun last => replace key (.tables (last :: older)) entries
        | [] => none

/-- Changes the table that a header has opened. -/
def within? (path : List String) (f : Entries → Option Entries) (entries : Entries) :
    Option Entries :=
  match path with
  | [] => f entries
  | key :: path =>
    match entries.lookup key with
    | some (.table kind inner) =>
      (within? path f inner).map fun inner => replace key (.table kind inner) entries
    | some (.tables (last :: older)) =>
      (within? path f last).map fun last => replace key (.tables (last :: older)) entries
    | _ => none

/-- The entries that keys and values in turn make, `none` if that is against the rules. -/
def ofPairs? (pairs : List (List String × Value)) : Option Entries :=
  pairs.foldlM (fun entries (path, v) => insert? true path v entries) []

end Entries
end DocPager.Toml
