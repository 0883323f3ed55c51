import ApiLint.Value

/-!
# Tables of TOML

A table may be defined only once, by a header, by dotted keys, or in place.  While a document is
read, each table remembers how it came to be, so that what may still be added to it is known.

## Main definitions

* `Toml.Item`, `Toml.Table`: tables while they are defined.
* `Toml.Table.set?`: a value given to a dotted key.
* `Toml.Table.open?`, `Toml.Table.openNext?`: a table opened by a header.
* `Toml.Table.toEntries`: the entries of a finished table, sorted by key.
-/

namespace ApiLint.Toml

/-- How a table came to be. -/
inductive Origin where
  /-- By a header of its own, or as the document itself. -/
  | header
  /-- Because it is on the way to a table with a header. -/
  | onPath
  /-- By dotted keys. -/
  | dotted
deriving DecidableEq, Repr, Inhabited

/-- What a key of a table that is being defined has. -/
inductive Item where
  /-- A value in place, to which nothing can be added. -/
  | value (value : Value)
  | table (origin : Origin) (entries : List (String × Item))
  /-- Tables under one header, the last one first. -/
  | tables (last : List (String × Item)) (before : List (List (String × Item)))
deriving Inhabited

/-- A table that is being defined. -/
structure Table where
  origin : Origin
  entries : List (String × Item)
deriving Inhabited

namespace Table

/-- The document before anything is defined. -/
def empty : Table :=
  ⟨.header, []⟩

/-- Gives a key an item, in place of the one it has. -/
def put (entries : List (String × Item)) (key : String) (item : Item) : List (String × Item) :=
  match entries with
  | [] => [(key, item)]
  | (k, i) :: rest => if k = key then (key, item) :: rest else (k, i) :: put rest key item

/-- Changes the table at the end of a path; the tables on the way come to be if they are not there.
Dotted keys must not lead through tables that have a header, and of tables under one header the
last is meant. -/
def change? (made : Origin) (path : List String) (f : Table → Option Table) (table : Table) :
    Option Table :=
  match path with
  | [] => f table
  | key :: rest =>
    match table.entries.lookup key with
    | none => do
      let inner ← change? made rest f ⟨made, []⟩
      return { table with entries := put table.entries key (.table inner.origin inner.entries) }
    | some (.value _) => none
    | some (.table origin entries) =>
      if made = .dotted ∧ origin = .header then none
      else do
        let inner ← change? made rest f ⟨origin, entries⟩
        return { table with entries := put table.entries key (.table inner.origin inner.entries) }
    | some (.tables last before) => do
      let inner ← change? made rest f ⟨.header, last⟩
      return { table with entries := put table.entries key (.tables inner.entries before) }

/-- Gives a new key of a table a value.  Dotted keys cannot add to a table that has a header, and
make any other table their own. -/
def add? (isDotted : Bool) (key : String) (value : Value) (table : Table) : Option Table :=
  if isDotted && table.origin == .header then none
  else if (table.entries.lookup key).isSome then none
  else
    some
      { origin := if isDotted then .dotted else table.origin
        entries := table.entries ++ [(key, .value value)] }

/-- **A value for a dotted key** of a table. -/
def set? (path : List String) (key : String) (value : Value) (table : Table) : Option Table :=
  change? .dotted path (add? (!path.isEmpty) key value) table

/-- **A table opened by its header.**  Of the tables there already, one on the way to another table
can be opened. -/
def open? (path : List String) (key : String) (table : Table) : Option Table :=
  change? .onPath path
    (fun parent =>
      match parent.entries.lookup key with
      | none => some { parent with entries := parent.entries ++ [(key, .table .header [])] }
      | some (.table .onPath entries) =>
        some { parent with entries := put parent.entries key (.table .header entries) }
      | some _ => none) table

/-- **One more table under a header** that is there for several. -/
def openNext? (path : List String) (key : String) (table : Table) : Option Table :=
  change? .onPath path
    (fun parent =>
      match parent.entries.lookup key with
      | none => some { parent with entries := parent.entries ++ [(key, .tables [] [])] }
      | some (.tables last before) =>
        some { parent with entries := put parent.entries key (.tables [] (last :: before)) }
      | some _ => none) table

/-- Entries sorted by key. -/
def sorted (entries : Entries) : Entries :=
  entries.mergeSort fun a b => a.1 ≤ b.1

end Table

mutual

/-- The value of an item that is finished. -/
def Item.toValue : Item → Value
  | .value value => value
  | .table _ entries => .object (Table.sorted (entryValues entries))
  | .tables last before =>
    .array (tableValues before [.object (Table.sorted (entryValues last))])

/-- The values of the entries of a finished table. -/
def entryValues : List (String × Item) → Entries
  | [] => []
  | (key, item) :: rest => (key, item.toValue) :: entryValues rest

/-- The values of finished tables, the last one first, in front of values that come after them. -/
def tableValues (tables : List (List (String × Item))) (after : List Value) : List Value :=
  match tables with
  | [] => after
  | last :: before =>
    tableValues before (.object (Table.sorted (entryValues last)) :: after)

end

/-- The entries of a finished table, sorted by key. -/
def Table.toEntries (table : Table) : Entries :=
  sorted (entryValues table.entries)

end ApiLint.Toml
