import Tablewright.Store.Batch

/-!
# Bulk synchronization

A batch is applied inside a transaction that the caller opened and ends. One insert of all items sends
one statement; otherwise the changes are staged: the staging table is created, the changes are loaded
into it, and one script applies them and reports what it changed. Before each of these the caller may
have cancelled.
-/

namespace Tablewright

/-- A count that the script reported. -/
def Row.count (r : Row) (name : String) : Except Fault Nat :=
  (r.read (.int .u64) name).map fun n => n.val.toNat

/-- The counts that the script reported. -/
def SyncCounts.ofRow (r : Row) : Except Fault SyncCounts := do
  return {
    inserted := ← r.count "inserted"
    updated := ← r.count "updated"
    deleted := ← r.count "deleted" }

namespace Batch

variable {Item σ : Type} (b : Batch Item) (e : Entity Item) (conn : Connection σ)
  (options : SyncOptions)

/-- The rows of the staging table: the values of each item, then the kind of its change. -/
def stagedRows : List (List Value) :=
  b.map fun change => e.stagingRow change.item ++ [.int16 (Int16.ofNat change.kind.tag)]

/-- Applies a batch of inserts by one statement. -/
def applyAtOnce : Operation σ SyncCounts := do
  let command := e.insertCommand (b.map (·.item)) options.timeout
  conn.checkpoint options.cancel
  return { inserted := ← conn.executeIn e.dialect command }

/-- Applies a batch through a staging table. -/
def applyStaged (staging : StagingTexts) (indexed : Bool) : Operation σ SyncCounts := do
  let timeout := options.timeout
  conn.checkpoint options.cancel
  let _ ← conn.executeIn e.dialect { sql := staging.create, timeout }
  conn.checkpoint options.cancel
  let _ ← conn.bulkLoad
    { table := staging.table, columns := staging.columns, rows := stagedRows b e, timeout }
  conn.checkpoint options.cancel
  let script := if indexed then staging.applyIndexed else staging.apply
  let rows ← conn.fetchIn e.dialect { sql := script, timeout }
  match rows.getLast? with
  | some row => MonadExcept.ofExcept (SyncCounts.ofRow row)
  | none => throw .missingCounts

/-- Applies the batch. -/
def apply : Operation σ SyncCounts := do
  conn.requireTransaction "bulk sync"
  conn.requireDialect e.dialect
  match plan b e options with
  | .empty => return {}
  | .fastPath => applyAtOnce b e conn options
  | .staging indexed =>
    match e.texts.staging with
    | some staging => applyStaged b e conn options staging indexed
    | none => throw (.unsupported "bulk sync" e.texts.table)

end Batch

end Tablewright
