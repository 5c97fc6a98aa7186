import Tablewright.Chunks
import Tablewright.Sql.Values
import Tablewright.Store.Connection
import Tablewright.Table.Texts

/-!
# Entities

A type of items kept in a table: the texts of the table's statements and what each of them binds for
an item. Every operation below checks the dialect of the connection before it sends anything; the
operations on many items send statements within the limits of the dialect.
-/

namespace Tablewright

/-- How items of a type are kept in a table. -/
structure Entity (Item : Type) where
  dialect : Dialect
  texts : TableTexts
  /-- What an insert binds, in the order of its columns. -/
  insertParameters : Item → List Parameter
  /-- What an update binds: the columns that it sets, then the key. -/
  updateParameters : Item → List Parameter
  /-- The key, in its order. -/
  keyParameters : Item → List Parameter
  /-- The values of a staged row, without the kind of the change. -/
  stagingRow : Item → List Value
  /-- The item that a row holds. -/
  ofRow : Row → Except Fault Item

/-- Parameters under the names of their positions in a statement, counted from `start`. -/
def positional (d : Dialect) (parameters : List Parameter) (start : Nat) : List Parameter :=
  parameters.mapIdx fun i p => p.renamed (d.positionalName (start + i))

namespace Entity

variable {Item σ : Type} (e : Entity Item) (conn : Connection σ)

/-- A statement that the table may lack. -/
def require (operation : String) (text : Option String) : Operation σ String :=
  match text with
  | some text => return text
  | none => throw (.unsupported operation e.texts.table)

/-- Creates the table. -/
def createTable : Operation σ Unit := do
  let _ ← conn.executeIn e.dialect { sql := e.texts.create }

/-- Inserts an item. -/
def insert (item : Item) : Operation σ Nat :=
  conn.executeIn e.dialect { sql := e.texts.insert, parameters := e.insertParameters item }

/-- The insert of many items at once. -/
def insertCommand (items : List Item) (timeout : Option Nat) : Command where
  sql := e.texts.insertBatch ++ Sql.valueGroups e.dialect items.length e.texts.insertWidth 1
  parameters := positional e.dialect (items.flatMap e.insertParameters) 1
  timeout := timeout

/-- The greatest number of items that one insert takes. -/
def insertBatchSize : Nat :=
  e.dialect.batchRows e.dialect.parameterLimit e.texts.insertWidth

/-- Inserts items by statements for as many of them as the dialect allows. -/
def insertMany (items : List Item) : Operation σ Nat := do
  conn.requireDialect e.dialect
  Operation.total ((chunks e.insertBatchSize items).map fun chunk =>
    conn.executeIn e.dialect (e.insertCommand chunk none))

/-- Updates the row with the key of an item. -/
def update (item : Item) : Operation σ Nat := do
  let text ← e.require "update" e.texts.update
  conn.executeIn e.dialect { sql := text, parameters := e.updateParameters item }

/-- Deletes the row with the key of an item. -/
def delete (item : Item) : Operation σ Nat := do
  let text ← e.require "delete" e.texts.delete
  conn.executeIn e.dialect { sql := text, parameters := e.keyParameters item }

/-- The deletion of many items at once, behind the head of the statement. -/
def deleteCommand (head : String) (items : List Item) : Command :=
  let keys := items.flatMap e.keyParameters
  { sql := head ++ Sql.valueGroups e.dialect 1 keys.length 1
    parameters := positional e.dialect keys 1 }

/-- The greatest number of items that one deletion takes. -/
def deleteBatchSize : Nat :=
  Dialect.rowsPerStatement e.dialect.parameterLimit 1

/-- Deletes the rows with the keys of items, as many by one statement as the dialect allows. -/
def deleteMany (items : List Item) : Operation σ Nat := do
  let head ← e.require "delete_many" e.texts.deleteBatch
  conn.requireDialect e.dialect
  Operation.total ((chunks e.deleteBatchSize items).map fun chunk =>
    conn.executeIn e.dialect (e.deleteCommand head chunk))

/-- Inserts an item, or updates the row with its key. -/
def upsert (item : Item) : Operation σ Nat := do
  let text ← e.require "upsert" e.texts.upsert
  conn.executeIn e.dialect { sql := text, parameters := e.insertParameters item }

/-- Deletes all rows. -/
def truncate : Operation σ Unit := do
  let _ ← conn.executeIn e.dialect { sql := e.texts.truncate }

/-- The item with a key. -/
def find (key : List Parameter) : Operation σ (Option Item) := do
  let text ← e.require "find" e.texts.find
  let rows ← conn.fetchIn e.dialect { sql := text, parameters := key }
  match rows.head? with
  | some row => some <$> MonadExcept.ofExcept (e.ofRow row)
  | none => return none

/-- All items, in the order of the store. -/
def all : Operation σ (List Item) := do
  let rows ← conn.fetchIn e.dialect { sql := e.texts.select }
  MonadExcept.ofExcept (rows.mapM e.ofRow)

end Entity

end Tablewright
