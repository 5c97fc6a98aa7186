import Tablewright.Table.Statements

/-!
# Staging

A batch of changes is loaded into a temporary table beside the kind of each change and then applied
by one script: rows to insert first, then rows to update, then rows to delete.
-/

namespace Tablewright

/-- The kind of a change to a row. -/
inductive ChangeKind where
  | insert
  | update
  | delete
  deriving DecidableEq, Repr

/-- The number by which a staging table marks the kind. -/
def ChangeKind.tag : ChangeKind → Nat
  | insert => 1
  | update => 2
  | delete => 3

/-- The name of the kind. -/
def ChangeKind.name : ChangeKind → String
  | insert => "insert"
  | update => "update"
  | delete => "delete"

/-- All kinds in the order of their numbers. -/
def ChangeKind.all : List ChangeKind := [.insert, .update, .delete]

namespace Table

open Sql

variable (t : Table)

/-- The name of the staging table, without quotes. -/
def stagingName : String :=
  t.dialect.stagingName t.name

/-- Creates the staging table. -/
def stagingCreate : Statement :=
  let columns : List Statement := t.columns.map fun c => [.name c.name, .word (" " ++ c.typeText ++ " NULL")]
  let tag := [Fragment.name opColumn, .word (" " ++ t.dialect.opColumnType ++ " NOT NULL")]
  let create := match t.dialect with
    | .sqlServer => "CREATE TABLE "
    | .postgres => "CREATE TEMP TABLE "
  .word create :: .name t.stagingName :: .word " (" :: joined ", " (columns ++ [tag]) ++
    [.word ")"]

/-- The columns of the staging table; the kind of the change is last. -/
def stagingColumns : List String :=
  t.columns.map (·.name) ++ [opColumn]

/-- Creates an index on the staging table. -/
def stagingIndex : Statement :=
  match t.dialect with
  | .sqlServer => .word "CREATE CLUSTERED INDEX " :: .name ("IX_" ++ t.name ++ "_bulk") ::
      .word " ON " :: .name t.stagingName :: .word " (" :: columnList t.keyColumns ++ [.word ")"]
  | .postgres => .word "CREATE INDEX ON " :: .name t.stagingName :: .word " (" ::
      columnList t.keyColumns ++ [.word ");\nANALYZE ", .name t.stagingName]

/-- The staged rows of one kind. -/
def changeFilter (kind : ChangeKind) : Statement :=
  [.word "s.", .name opColumn, .word (" = " ++ Text.numeral kind.tag)]

/-- Copies the staged rows to insert. -/
def applyInsert : Statement :=
  .word "INSERT INTO " :: t.target ++ .word " (" :: columnList t.insertColumns ++
    .word ") SELECT " :: columnListOf "s" t.insertColumns ++
    .word " FROM " :: .name t.stagingName :: .word " AS s WHERE " :: changeFilter .insert

/-- Applies the staged changes in the batch language of SQL Server. -/
def sqlServerApply : Statement :=
  let joinStaging : Statement :=
    .word " FROM " :: t.target ++ .word " AS t INNER JOIN " :: .name t.stagingName ::
      .word " AS s ON " :: keyMatch "t" "s" t.keyColumns
  let update : Statement := match t.updateColumns with
    | [] => []
    | updates => .word "UPDATE t SET " ::
        joined ", " (updates.map fun c =>
          [.word "t.", .name c.name, .word " = s.", .name c.name]) ++
        joinStaging ++ .word " WHERE " :: changeFilter .update ++
        [.word ";\nSET @updated = @@ROWCOUNT;\n"]
  .word "SET NOCOUNT ON;\n" ::
    .word "DECLARE @inserted BIGINT = 0, @updated BIGINT = 0, @deleted BIGINT = 0;\n" ::
    t.applyInsert ++ .word ";\nSET @inserted = @@ROWCOUNT;\n" :: update ++
    .word "DELETE t" :: joinStaging ++ .word " WHERE " :: changeFilter .delete ++
    [.word ";\nSET @deleted = @@ROWCOUNT;\n", .word "DROP TABLE ", .name t.stagingName,
      .word ";\nSELECT @inserted AS ", .name "inserted", .word ", @updated AS ", .name "updated",
      .word ", @deleted AS ", .name "deleted", .word ";"]

/-- Applies the staged changes in one PostgreSQL query, followed by the removal of the staging
table. -/
def postgresApply : Statement :=
  let matchStaging (kind : ChangeKind) : Statement :=
    .name t.stagingName :: .word " AS s WHERE " :: keyMatch "t" "s" t.keyColumns ++
      .word " AND " :: changeFilter kind ++ [.word " RETURNING 1)"]
  let insert : Statement := .word "ins AS (" :: t.applyInsert ++ [.word " RETURNING 1)"]
  let update : List Statement := match t.updateColumns with
    | [] => []
    | updates => [.word "upd AS (UPDATE " :: t.target ++ .word " AS t SET " ::
        joined ", " (updates.map fun c => [.name c.name, .word " = s.", .name c.name]) ++
        .word " FROM " :: matchStaging .update]
  let delete : Statement := .word "del AS (DELETE FROM " :: t.target ++ .word " AS t USING " ::
    matchStaging .delete
  let updated := if t.updateColumns.isEmpty then "0" else "(SELECT COUNT(*) FROM upd)"
  .word "WITH " :: joined ",\n" (insert :: update ++ [delete]) ++
    [.word "\nSELECT (SELECT COUNT(*) FROM ins) AS ", .name "inserted",
      .word (", " ++ updated ++ "::BIGINT AS "), .name "updated",
      .word ", (SELECT COUNT(*) FROM del) AS ", .name "deleted", .word ";\nDROP TABLE ",
      .name t.stagingName]

/-- Applies the staged changes and removes the staging table. -/
def apply : Statement :=
  match t.dialect with
  | .sqlServer => t.sqlServerApply
  | .postgres => t.postgresApply

/-- Indexes the staging table first. -/
def applyIndexed : Statement :=
  t.stagingIndex ++ .word ";\n" :: t.apply

end Table

end Tablewright
