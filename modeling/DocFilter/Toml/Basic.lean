/-!
# TOML values

The values of a TOML document, and the tables in the making while a document is read. A table
remembers how it came about, because that decides what may be added to it later: by a header of
its own, on the way to another table, or by a dotted key.
-/

namespace DocFilter

/-- A TOML value. -/
inductive Toml where
  | string (text : String)
  | integer (value : Int)
  | float (value : Float)
  | boolean (value : Bool)
  /-- A date, a time, or both, as written. -/
  | moment (text : String)
  | array (items : List Toml)
  | table (entries : List (String × Toml))
  deriving Repr, Inhabited

namespace Toml

/-- How a table came about. -/
inductive Origin where
  /-- By a header that names it. -/
  | header
  /-- By a header that names a table inside it. -/
  | path
  /-- By a dotted key. -/
  | dotted
  deriving DecidableEq, Repr

/-- An entry of a table in the making. -/
inductive Entry where
  | value (v : Toml)
  | table (origin : Origin) (entries : List (String × Entry))
  /-- Tables under one name, last one first. -/
  | tables (rows : List (List (String × Entry)))
  deriving Repr, Inhabited

/-- The entries of a table in the making. -/
abbrev Entries := List (String × Entry)

namespace Entries

/-- The entry of a key. -/
def get? (entries : Entries) (key : String) : Option Entry :=
  (entries.find? fun e => e.1 == key).map (·.2)

/-- Sets the entry of a key. -/
def put (entries : Entries) (key : String) (entry : Entry) : Entries :=
  match entries with
  | [] => [(key, entry)]
  | (k, e) :: rest => if k = key then (k, entry) :: rest else (k, e) :: put rest key entry

/-- Changes the table that a header's path leads to. Tables on the way are made where they are
missing; of tables under one name the last one counts. -/
def atPath (change : Entries → Option Entries) : List String → Entries → Option Entries
  | [], entries => change entries
  | key :: path, entries =>
    match get? entries key with
    | none => (atPath change path []).map fun inner => put entries key (.table .path inner)
    | some (.value _) => none
    | some (.table origin inner) =>
      (atPath change path inner).map fun inner => put entries key (.table origin inner)
    | some (.tables (row :: rows)) =>
      (atPath change path row).map fun row => put entries key (.tables (row :: rows))
    | some (.tables []) => none

/-- Opens the table of a header. A table opens once. -/
def openTable (key : String) (entries : Entries) : Option Entries :=
  match get? entries key with
  | none => some (put entries key (.table .header []))
  | some (.table .path inner) => some (put entries key (.table .header inner))
  | some _ => none

/-- Opens the next one of the tables under one name. -/
def openRow (key : String) (entries : Entries) : Option Entries :=
  match get? entries key with
  | none => some (put entries key (.tables [[]]))
  | some (.tables rows) => some (put entries key (.tables ([] :: rows)))
  | some _ => none

/-- Adds a value under a key that is not there yet. -/
def addNew (entries : Entries) (key : String) (v : Toml) : Option Entries :=
  match get? entries key with
  | none => some (put entries key (.value v))
  | some _ => none

/-- Adds a value under a dotted key. The tables on the way are made by dotted keys. -/
def addDotted (v : Toml) : List String → String → Entries → Option Entries
  | [], last, entries => addNew entries last v
  | key :: path, last, entries =>
    match get? entries key with
    | none => (addDotted v path last []).map fun inner => put entries key (.table .dotted inner)
    | some (.table .dotted inner) =>
      (addDotted v path last inner).map fun inner => put entries key (.table .dotted inner)
    | some (.table .path inner) =>
      -- such a table can only be passed on the way to one that dotted keys have made
      if path.isEmpty then none
      else (addDotted v path last inner).map fun inner => put entries key (.table .path inner)
    | some (.tables (row :: rows)) =>
      -- so can the last one of tables under one name
      if path.isEmpty then none
      else (addDotted v path last row).map fun row => put entries key (.tables (row :: rows))
    | some _ => none

end Entries

mutual

/-- A finished entry as a value. -/
def Entry.toValue : Entry → Toml
  | .value v => v
  | .table _ entries => .table (valuesOf entries)
  | .tables rows => .array (tablesOf rows).reverse
termination_by structural e => e

def valuesOf : List (String × Entry) → List (String × Toml)
  | [] => []
  | (key, entry) :: rest => (key, entry.toValue) :: valuesOf rest
termination_by structural entries => entries

def tablesOf : List (List (String × Entry)) → List Toml
  | [] => []
  | row :: rows => .table (valuesOf row) :: tablesOf rows
termination_by structural rows => rows

end

end Toml

end DocFilter
