import Tablewright.Proofs.EntityStatements
import Tablewright.Proofs.KeyedRecords
import Tablewright.Proofs.RowOperations

/-!
# Lists of records

A table as those see it who work with its rows one by one: a list of records and a counter. The
operations on rows are described on it without any statement, connection or dialect.

## Key results

- `respond_inDialect`: the dialect of a table does not matter to its list of records
- `withUpdates_singleton`, `withoutDeleted_singleton`: one record's update and removal as changes of
  the list
-/

namespace Tablewright

variable {Item : Type}

/-- The records of a table, and the value that the store assigns next. -/
structure RecordList where
  records : List (List Value)
  next : Int
  deriving DecidableEq

/-- The records that a table in memory holds. -/
def MemoryTable.recordList (m : MemoryTable) : RecordList where
  records := m.rows
  next := m.nextIdentity

/-- What a change of a list answers: the number of records that changed. -/
def RecordList.counting (change : RecordList → Nat × RecordList) :
    StateM RecordList (Except Fault (RowAnswer Item)) :=
  fun r => (.ok (.changed (change r).1), (change r).2)

namespace Table

variable (t : Table)

/-- The same table in a dialect. -/
def inDialect (d : Dialect) : Table :=
  { t with dialect := d }

/-- Goods on shelves, found by their articles; the store numbers the shelves. -/
def shelf (d : Dialect) : Table where
  dialect := d
  schema := d.defaultSchema
  name := "Shelf"
  columns :=
    match d with
    | .sqlServer => [.ofProperty "number" (.sqlServer .bigInt),
        { Column.ofProperty "article" (.sqlServer .varChar) with name := "Code" },
        { Column.ofProperty "pieces" (.sqlServer .int) with name := "PIECES" }]
    | .postgres => [.ofProperty "number" (.postgres .bigInt),
        { Column.ofProperty "article" (.postgres .text) with name := "Code" },
        { Column.ofProperty "pieces" (.postgres .integer) with name := "PIECES" }]
  keys := ["article"]
  identity := ["number"]

/-- Goods arrive twice, are counted, looked up and cleared away. -/
def shelfWork : List (RowOperation (List Value)) :=
  [.insert [.null, .text "nails", .int32 7], .upsert [.null, .text "nails", .int32 9],
    .upsert [.null, .text "screws", .int32 4], .update [.null, .text "nails", .int32 8],
    .find [.text "nails"], .delete [.null, .text "nails", .null], .all, .truncate]

/-! ## Changes of a list -/

/-- Appends a new record, with the next value of the store where the store assigns one. -/
def insertInto (record : List Value) (r : RecordList) : Nat × RecordList :=
  (1, { records := r.records ++ [t.newRecord r.next record], next := t.nextAfter r.next 1 })

/-- Overwrites the update columns of all records with the key of the given one. -/
def updateIn (record : List Value) (r : RecordList) : Nat × RecordList :=
  (r.records.countP (t.sameKey · record),
    { r with
      records := r.records.map fun row =>
        if t.sameKey row record then t.overwritten record row else row })

/-- Removes all records with the key of the given one. -/
def deleteFrom (record : List Value) (r : RecordList) : Nat × RecordList :=
  (r.records.countP (t.sameKey · record),
    { r with records := r.records.filter fun row => !t.sameKey row record })

/-- Updates the records with the key of the given one if there are any, and inserts it otherwise. -/
def upsertIn (record : List Value) (r : RecordList) : Nat × RecordList :=
  if r.records.any (t.sameKey · record) then t.updateIn record r else t.insertInto record r

/-! ## Operations on rows -/

/-- The item of a record. -/
def decoded (ofRow : Row → Except Fault Item) (record : List Value) : Except Fault Item :=
  ofRow (t.resultRow record)

/-- The item of the first record with a key, if there is one. -/
def lookedUp (ofRow : Row → Except Fault Item) (key : List Value) (records : List (List Value)) :
    Except Fault (Option Item) :=
  match records.find? (t.hasKey key) with
  | some record => (t.decoded ofRow record).map some
  | none => .ok none

/-- What an operation on rows answers on a list of records, and the list afterwards. -/
def respond (values : Item → List Value) (ofRow : Row → Except Fault Item) :
    RowOperation Item → StateM RecordList (Except Fault (RowAnswer Item))
  | .insert item => RecordList.counting (t.insertInto (t.record (values item)))
  | .update item => RecordList.counting (t.updateIn (t.record (values item)))
  | .delete item => RecordList.counting (t.deleteFrom (t.record (values item)))
  | .upsert item => RecordList.counting (t.upsertIn (t.record (values item)))
  | .truncate => fun r => (.ok .emptied, { r with records := [] })
  | .find key => fun r => ((t.lookedUp ofRow key r.records).map .found, r)
  | .all => fun r => ((r.records.mapM (t.decoded ofRow)).map .listed, r)

/-- What operations answer on a list of records, one after the other. A fault ends the operation
alone. -/
def respondEach (values : Item → List Value) (ofRow : Row → Except Fault Item)
    (ops : List (RowOperation Item)) :
    StateM RecordList (List (Except Fault (RowAnswer Item))) :=
  ops.mapM (t.respond values ofRow)

/-- What operations answer on a connection, one after the other. A fault ends the operation alone. -/
def performEach {σ : Type} (values : Item → List Value) (ofRow : Row → Except Fault Item)
    (conn : Connection σ) (ops : List (RowOperation Item)) :
    StateM σ (List (Except Fault (RowAnswer Item))) :=
  ops.mapM fun op => (t.perform values ofRow conn op).run

variable {t}

/-- The dialect of a table does not matter to its list of records. -/
theorem respond_inDialect (d : Dialect) (values : Item → List Value)
    (ofRow : Row → Except Fault Item) :
    (t.inDialect d).respond values ofRow = t.respond values ofRow := rfl

theorem RecordTable.inDialect (h : t.RecordTable) (d : Dialect) : (t.inDialect d).RecordTable where
  schema := h.schema
  name := h.name
  columns := h.columns
  distinct := h.distinct
  keyed := h.keyed
  keysNamed := h.keysNamed
  writable := h.writable
  properties := h.properties
  apart := h.apart
  keysGiven := h.keysGiven
  updatable := h.updatable

/-! ## One record -/

theorem newRecords_singleton (next : Int) (record : List Value) :
    t.newRecords next [record] = [t.newRecord next record] := by
  rw [newRecords, List.mapIdx_cons, List.mapIdx_nil, Int.natCast_zero, Int.add_zero]

theorem withUpdates_singleton (record : List Value) (rows : List (List Value)) :
    t.withUpdates [record] rows =
      rows.map fun row => if t.sameKey row record then t.overwritten record row else row := by
  refine List.map_congr_left fun row _ => ?_
  by_cases hrow : t.sameKey row record = true <;> simp [hrow, List.find?]

theorem withoutDeleted_singleton (record : List Value) (rows : List (List Value)) :
    t.withoutDeleted [record] rows = rows.filter fun row => !t.sameKey row record := by
  refine List.filter_congr fun row _ => ?_
  rw [hasKeyIn, List.any_cons, List.any_nil, Bool.or_false]

end Table

end Tablewright
