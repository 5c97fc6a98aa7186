import Tablewright.Value.Basic

/-!
# Tables in memory

The table of the store in memory: rows of values in the order of their insertion, and a counter for
the column whose values the store assigns. A row is found by the values of named columns; integers of
different widths are the same key if they are the same number.
-/

namespace Tablewright

/-- Whether two values are the same key. -/
def Value.sameKey (a b : Value) : Bool :=
  match a.toInt?, b.toInt? with
  | some m, some n => m == n
  | _, _ => a.equals b

/-- A table in memory. -/
structure MemoryTable where
  /-- The quoted name by which statements call the table. -/
  name : String
  columns : List String
  /-- The columns by which an upsert finds a row. -/
  keys : List String
  /-- The column whose values the store assigns, if there is one. -/
  identity : Option String
  rows : List (List Value)
  /-- The next value that the store assigns. -/
  nextIdentity : Int
  deriving DecidableEq

namespace MemoryTable

/-- The position of a column. -/
def position? (t : MemoryTable) (column : String) : Option Nat :=
  t.columns.findIdx? (· == column)

/-- The position of the column whose values the store assigns. -/
def identityPosition? (t : MemoryTable) : Option Nat :=
  t.identity.bind t.position?

/-- An empty table. -/
def empty (name : String) (columns keys : List String) (identity : Option String) : MemoryTable where
  name := name
  columns := columns
  keys := keys
  identity := identity
  rows := []
  nextIdentity := 1

/-- The value at a position of a row; an absent one is null. -/
def valueAt (row : List Value) (position : Nat) : Value :=
  row[position]?.getD .null

/-- The table with other rows. The store goes on assigning above the greatest value that they hold. -/
def withRows (t : MemoryTable) (rows : List (List Value)) : MemoryTable :=
  match t.identityPosition? with
  | none => { t with rows }
  | some i =>
    let assigned := rows.filterMap fun row => (valueAt row i).toInt?
    { t with rows, nextIdentity := (assigned.max?.map (· + 1)).getD 1 }

/-- A row with named columns set; a column that the table lacks is left aside. -/
def assign (t : MemoryTable) (names : List String) (values : List Value) (row : List Value) :
    List Value :=
  (names.zip values).foldl
    (fun row (name, value) =>
      match t.position? name with
      | some i => row.set i value
      | none => row)
    row

/-- A row with null in every column but those that are named. -/
def filled (t : MemoryTable) (names : List String) (values : List Value) : List Value :=
  t.assign names values (List.replicate t.columns.length .null)

/-- A new row from named values, and the table afterwards, which has not got the row yet. The store
assigns a value unless one is named. -/
def newRow (t : MemoryTable) (names : List String) (values : List Value) : List Value × MemoryTable :=
  let row := t.filled names values
  match t.identityPosition? with
  | none => (row, t)
  | some i =>
    if names.any fun name => some name == t.identity then (row, t)
    else (row.set i (.int64 (Int64.ofInt t.nextIdentity)),
      { t with nextIdentity := t.nextIdentity + 1 })

/-- Inserts a row of named values. -/
def insert (t : MemoryTable) (names : List String) (values : List Value) : MemoryTable :=
  let (row, t) := t.newRow names values
  { t with rows := t.rows ++ [row] }

/-- Conditions on the values at positions; a column that the table lacks has none. -/
def conditions (t : MemoryTable) (names : List String) (values : List Value) :
    List (Option Nat × Value) :=
  (names.zip values).map fun (name, value) => (t.position? name, value)

/-- Whether a row meets conditions; a column that the table lacks meets none. -/
def meets (conditions : List (Option Nat × Value)) (row : List Value) : Bool :=
  conditions.all fun (position, value) => position.any fun i => (valueAt row i).sameKey value

/-- Whether a row has values in named columns. -/
def rowMatches (t : MemoryTable) (names : List String) (values : List Value) (row : List Value) :
    Bool :=
  meets (t.conditions names values) row

/-- Sets columns of the rows with a key, and answers their number. -/
def update (t : MemoryTable) (keys : List String) (keyValues : List Value)
    (names : List String) (values : List Value) : Nat × MemoryTable :=
  let conditions := t.conditions keys keyValues
  (t.rows.countP (meets conditions),
    { t with
      rows := t.rows.map fun row => if meets conditions row then t.assign names values row else row })

/-- Deletes the rows with a key, and answers their number. -/
def delete (t : MemoryTable) (keys : List String) (keyValues : List Value) : Nat × MemoryTable :=
  let conditions := t.conditions keys keyValues
  (t.rows.countP (meets conditions),
    { t with rows := t.rows.filter fun row => !meets conditions row })

/-- The value of the first column of a name among named values; null if it is not named. -/
def namedValue (names : List String) (values : List Value) (name : String) : Value :=
  match names.findIdx? (· == name) with
  | some i => valueAt values i
  | none => .null

/-- Updates the rows with the key of named values, or inserts a row of them, and answers the number
of rows that changed. -/
def upsert (t : MemoryTable) (names : List String) (values : List Value) : Nat × MemoryTable :=
  let keyValues := t.keys.map (namedValue names values)
  if t.rows.any (t.rowMatches t.keys keyValues) then
    let others := (names.zip values).filter fun (name, _) => !t.keys.contains name
    t.update t.keys keyValues (others.map (·.1)) (others.map (·.2))
  else (1, t.insert names values)

/-- Deletes all rows. The store goes on assigning where it stood. -/
def truncate (t : MemoryTable) : MemoryTable :=
  { t with rows := [] }

end MemoryTable

end Tablewright
