/-!
# Documents of settings

A document is a table of items.  An item is a value, a table, or a list of tables that
was built up under one heading.  Where a table comes from decides in which ways more may
be added to it:

* a table under a heading of its own is complete when the next heading comes, except
  that headings of tables inside it may follow;
* a table that only lies on the way to another heading may still get its own heading;
* a table that arises from dotted keys may be added to by dotted keys alone;
* a table between braces is complete.
-/

namespace PassPipeline.Toml

/-- Where a table comes from. -/
inductive Origin where
  /-- A heading of its own, or the document itself. -/
  | heading
  /-- The way to another heading. -/
  | passage
  /-- Dotted keys. -/
  | dotted
  /-- Braces. -/
  | braces
  deriving DecidableEq, Repr

/-- Can tables of this origin be gone through by the keys of an assignment? -/
def Origin.isLoose (origin : Origin) : Bool := origin = .passage || origin = .dotted

/-- An item of a document. -/
inductive Item where
  | text (value : String)
  | integer (value : Int)
  | float
  | boolean (value : Bool)
  | datetime
  | array (items : List Item)
  | table (origin : Origin) (entries : List (String × Item))
  /-- The tables under one repeated heading, the latest first. -/
  | tables (latest : List (String × Item)) (earlier : List (List (String × Item)))

/-- The entries of a table. -/
abbrev Entries := List (String × Item)

namespace Entries

/-- Puts an item under a key, in place of what was there or at the end. -/
def put (key : String) (item : Item) : Entries → Entries
  | [] => [(key, item)]
  | (other, old) :: rest =>
    if other = key then (key, item) :: rest else (other, old) :: put key item rest

/-- Adds an item under dotted keys.  A table that the keys arise in is marked as such, and
the last key must be new. -/
def assign (origin : Origin) (entries : Entries) (item : Item) : List String → Option Entries
  | [] => none
  | [key] =>
    match entries.lookup key with
    | some _ => none
    | none => if origin = .passage then none else some (put key item entries)
  | key :: rest =>
    match entries.lookup key with
    | none => (assign .dotted [] item rest).map fun inner => put key (.table .dotted inner) entries
    | some (.table inner inside) =>
      if inner.isLoose then
        (assign inner inside item rest).map fun added => put key (.table inner added) entries
      else none
    | some (.tables latest earlier) =>
      (assign .heading latest item rest).bind fun added =>
        if rest.length = 1 then none else some (put key (.tables added earlier) entries)
    | some _ => none

/-- Opens the table under a heading: it must be new, or lie only on the way to another
heading.  The outcome is what it holds already. -/
def openTable (entries : Entries) : List String → Option Entries
  | [] => none
  | [key] =>
    match entries.lookup key with
    | none => some []
    | some (.table .passage inner) => some inner
    | some _ => none
  | key :: rest =>
    match entries.lookup key with
    | none => some []
    | some (.table .braces _) => none
    | some (.table _ inner) => openTable inner rest
    | some (.tables latest _) => openTable latest rest
    | some _ => none

/-- May a table be added under a repeated heading? -/
def opensTables (entries : Entries) : List String → Bool
  | [] => false
  | [key] =>
    match entries.lookup key with
    | none => true
    | some (.tables _ _) => true
    | some _ => false
  | key :: rest =>
    match entries.lookup key with
    | none => true
    | some (.table .braces _) => false
    | some (.table _ inner) => opensTables inner rest
    | some (.tables latest _) => opensTables latest rest
    | some _ => false

/-- Puts the finished table of a heading in its place.  Tables on the way arise as
needed. -/
def close (repeated : Bool) (entries table : Entries) : List String → Entries
  | [] => table
  | [key] =>
    if repeated then
      match entries.lookup key with
      | some (.tables latest earlier) => put key (.tables table (latest :: earlier)) entries
      | _ => put key (.tables table []) entries
    else put key (.table .heading table) entries
  | key :: rest =>
    match entries.lookup key with
    | some (.table origin inner) => put key (.table origin (close repeated inner table rest)) entries
    | some (.tables latest earlier) =>
      put key (.tables (close repeated latest table rest) earlier) entries
    | _ => put key (.table .passage (close repeated [] table rest)) entries

end Entries

end PassPipeline.Toml
