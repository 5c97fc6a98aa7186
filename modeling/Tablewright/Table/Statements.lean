import Tablewright.Sql.Fragment
import Tablewright.Table.Basic

/-!
# The statements on a table

Creating, changing and reading the rows of a table. Statements for one row bind each parameter under
the name of its column; the beginnings of statements for many rows are completed by the values of
`Sql.valueGroups`. A statement that the table's key does not allow is absent.
-/

namespace Tablewright.Table

open Sql

variable (t : Table)

/-! ## Parts -/

/-- The names of the schema and the table. -/
def target : Statement :=
  [.name t.schema, .word ".", .name t.name]

/-- The names of columns. -/
def columnList (columns : List Column) : Statement :=
  joined ", " (columns.map fun c => [.name c.name])

/-- The names of columns behind the short name of a table. -/
def columnListOf (source : String) (columns : List Column) : Statement :=
  joined ", " (columns.map fun c => [.word (source ++ "."), .name c.name])

/-- Equality of the key in two tables. -/
def keyMatch (left right : String) (keys : List Column) : Statement :=
  joined " AND " (keys.map fun c =>
    [.word (left ++ "."), .name c.name, .word (" = " ++ right ++ "."), .name c.name])

/-- Each column and its parameter, with an equals sign between them. The positions of the parameters
start from `start`. -/
def bindings (columns : List Column) (start : Nat) : List Statement :=
  columns.zipIdx.map fun (c, i) =>
    [.name c.name, .word " = ", .parameter c.parameterName (start + i)]

/-- Equality of each key column with its parameter. -/
def keyFilter (start : Nat) : Statement :=
  joined " AND " (bindings t.keyColumns start)

/-- The columns that an insert writes. -/
def insertHead : Statement :=
  .word "INSERT INTO " :: t.target ++ .word " (" :: columnList t.insertColumns ++ [.word ") VALUES "]

/-! ## Statements -/

/-- The definition of a column. -/
def columnDefinition (c : Column) : Statement :=
  let identity := if t.isIdentity c.property then " " ++ t.dialect.identityClause else ""
  let default := match c.default <|> t.implicitDefault c with
    | some expression => " DEFAULT " ++ expression
    | none => ""
  [.name c.name,
    .word (" " ++ c.typeText ++ identity ++ default ++ if c.nullable then " NULL" else " NOT NULL")]

/-- Creates the table. -/
def create : Statement :=
  let primaryKey : List Statement := match t.keyColumns with
    | [] => []
    | keys => [.word "CONSTRAINT " :: .name ("PK_" ++ t.name) :: .word " PRIMARY KEY (" ::
        columnList keys ++ [.word ")"]]
  .word "CREATE TABLE " :: t.target ++ .word " (" ::
    joined ", " (t.columns.map t.columnDefinition ++ primaryKey) ++ [.word ")"]

/-- Inserts one row. -/
def insert : Statement :=
  t.insertHead ++ .word "(" ::
    joined ", " (t.insertColumns.zipIdx.map fun (c, i) => [.parameter c.parameterName (i + 1)]) ++
    [.word ")"]

/-- Inserts many rows, up to their values. -/
def insertBatch : Statement :=
  t.insertHead

/-- Writes the columns of the row with a key. -/
def update : Option Statement :=
  if t.updateColumns.isEmpty || t.keys.isEmpty then none
  else some (.word "UPDATE " :: t.target ++ .word " SET " ::
    joined ", " (bindings t.updateColumns 1) ++
    .word " WHERE " :: t.keyFilter (t.updateColumns.length + 1))

/-- Deletes the row with a key. -/
def delete : Option Statement :=
  if t.keys.isEmpty then none
  else some (.word "DELETE FROM " :: t.target ++ .word " WHERE " :: t.keyFilter 1)

/-- Deletes the rows with any of many keys, up to the values of the only key column. -/
def deleteBatch : Option Statement :=
  match t.keyColumns with
  | [key] => some (.word "DELETE FROM " :: t.target ++
      [.word " WHERE ", .name key.name, .word " IN "])
  | _ => none

/-- Updates the row with the key of the given one, or inserts that one, by a merge. -/
def mergeUpsert (keys : List Column) : Statement :=
  let columns := t.insertColumns
  let values := columns.map fun c => [Fragment.parameter c.parameterName 0]
  let matched : Statement := match t.updateColumns with
    | [] => []
    | updates => .word " WHEN MATCHED THEN UPDATE SET " ::
        joined ", " (updates.map fun c =>
          [.word "target.", .name c.name, .word " = source.", .name c.name])
  .word "MERGE INTO " :: t.target ++
    .word " WITH (HOLDLOCK) AS target USING (VALUES (" :: joined ", " values ++
    .word ")) AS source (" :: columnList columns ++ .word ") ON " ::
    keyMatch "target" "source" keys ++ matched ++
    .word " WHEN NOT MATCHED THEN INSERT (" :: columnList columns ++
    .word ") VALUES (" :: columnListOf "source" columns ++ [.word ");"]

/-- Inserts the given row or, where its key is taken, updates the row that has it. -/
def conflictUpsert (keys : List Column) : Statement :=
  let action : Statement := match t.updateColumns with
    | [] => [.word "DO NOTHING"]
    | updates => .word "DO UPDATE SET " ::
        joined ", " (updates.map fun c => [.name c.name, .word " = EXCLUDED.", .name c.name])
  t.insert ++ .word " ON CONFLICT (" :: columnList keys ++ .word ") " :: action

/-- Updates or inserts one row. -/
def upsert : Option Statement :=
  match t.upsertKeys with
  | [] => none
  | keys =>
    match t.dialect.upsertStrategy with
    | .merge => some (t.mergeUpsert keys)
    | .onConflict => some (t.conflictUpsert keys)

/-- Removes all rows. -/
def truncate : Statement :=
  .word "TRUNCATE TABLE " :: t.target

/-- Reads all rows, each column under the name of its property. -/
def select : Statement :=
  let list := t.columns.map fun c =>
    if Text.eqIgnoreAsciiCase c.name c.property then [Fragment.name c.name]
    else [.name c.name, .word " AS ", .name c.property]
  .word "SELECT " :: joined ", " list ++ .word " FROM " :: t.target

/-- Reads the row with a key. -/
def find : Option Statement :=
  if t.keys.isEmpty then none
  else some (t.select ++ .word " WHERE " :: t.keyFilter 1)

end Tablewright.Table
