import Tablewright.Table.Staging

/-!
# The texts of a table's statements

All statements on a table as the text that a connection runs. Staging needs a key.
-/

namespace Tablewright

/-- The texts for staging changes. -/
structure StagingTexts where
  table : String
  create : String
  columns : List String
  index : String
  apply : String
  applyIndexed : String
  deriving DecidableEq, Repr

/-- The texts of all statements on a table. -/
structure TableTexts where
  table : String
  create : String
  insert : String
  insertBatch : String
  /-- The number of parameters in a row of a batch. -/
  insertWidth : Nat
  update : Option String
  delete : Option String
  deleteBatch : Option String
  upsert : Option String
  truncate : String
  select : String
  find : Option String
  staging : Option StagingTexts
  deriving DecidableEq, Repr

namespace Table

variable (t : Table)

/-- The text of a statement in the table's dialect. -/
def textOf (s : Sql.Statement) : String :=
  s.text t.dialect

/-- The texts for staging; none without a key. -/
def stagingTexts : Option StagingTexts :=
  if t.keyColumns.isEmpty then none
  else some {
    table := t.dialect.stagingTable t.name
    create := t.textOf t.stagingCreate
    columns := t.stagingColumns
    index := t.textOf t.stagingIndex
    apply := t.textOf t.apply
    applyIndexed := t.textOf t.applyIndexed }

/-- The texts of all statements. -/
def texts : TableTexts where
  table := t.qualifiedName
  create := t.textOf t.create
  insert := t.textOf t.insert
  insertBatch := t.textOf t.insertBatch
  insertWidth := t.insertColumns.length
  update := t.update.map t.textOf
  delete := t.delete.map t.textOf
  deleteBatch := t.deleteBatch.map t.textOf
  upsert := t.upsert.map t.textOf
  truncate := t.textOf t.truncate
  select := t.textOf t.select
  find := t.find.map t.textOf
  staging := t.stagingTexts

end Table

end Tablewright
