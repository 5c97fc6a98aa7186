import Tablewright.Number.Power
import Tablewright.Store.Entity
import Tablewright.Text.Blank

/-!
# Batches of changes

Changes collected for one table, and how a batch of them is going to be applied: not at all, by one
insert, or through a staging table.
-/

namespace Tablewright

/-- A change of one item. -/
structure ItemChange (Item : Type) where
  kind : ChangeKind
  item : Item
  deriving DecidableEq, Repr

/-- Changes in the order in which they were asked for. -/
abbrev Batch (Item : Type) := List (ItemChange Item)

/-- The numbers of rows that a batch changed. -/
structure SyncCounts where
  inserted : Nat := 0
  updated : Nat := 0
  deleted : Nat := 0
  deriving DecidableEq, Repr

/-- The number of all rows that changed. -/
def SyncCounts.total (c : SyncCounts) : Nat :=
  c.inserted + c.updated + c.deleted

/-- How a batch is applied. -/
inductive SyncStrategy where
  /-- There is nothing to do. -/
  | empty
  /-- One insert of all items. -/
  | fastPath
  /-- A staging table, with an index or without. -/
  | staging (indexed : Bool)
  deriving DecidableEq, Repr

/-- The settings of a synchronization. -/
structure SyncOptions where
  /-- A batch of at least so many changes indexes its staging table. -/
  indexThreshold : Nat := 500
  /-- How many nanoseconds each statement may take. -/
  timeout : Option Nat := none
  /-- The number of parameters that one insert must stay below, if not the dialect's. -/
  parameterLimit : Option Nat := none
  /-- What the caller cancels by. -/
  cancel : Option CancelToken := none
  deriving DecidableEq, Repr

/-- The greatest count that 64 bits hold. -/
def greatestCount : Nat := twoTo 64 - 1

/-- A product of counts, or the greatest count where 64 bits do not hold it. -/
def saturatingProduct (m n : Nat) : Nat :=
  min (m * n) greatestCount

namespace SyncOptions

/-- The variable with the threshold of the index. -/
def thresholdVariable : String := "BULKGEN_INDEX_THRESHOLD"

/-- The variable with the timeout in seconds, zero for none. -/
def timeoutVariable : String := "BULKGEN_TIMEOUT_SECS"

/-- The count that a variable holds; blanks around it do not matter. -/
def countOf? (value : Option String) : Option Nat :=
  value.bind fun text => Text.readNat? greatestCount (Text.trim text.toList)

/-- The settings that an environment gives. A variable that holds no count is left aside. -/
def ofEnvironment (lookUp : String → Option String) : SyncOptions where
  indexThreshold := (countOf? (lookUp thresholdVariable)).getD 500
  timeout :=
    match countOf? (lookUp timeoutVariable) with
    | some 0 | none => none
    | some seconds => some (seconds * 1000000000)

end SyncOptions

namespace Batch

variable {Item : Type} (b : Batch Item)

/-- Whether nothing but inserts is asked for. -/
def isInsertOnly : Bool :=
  b.all (·.kind = .insert)

/-- How the batch is applied. -/
def plan (e : Entity Item) (options : SyncOptions) : SyncStrategy :=
  let limit := options.parameterLimit.getD e.dialect.parameterLimit
  let underRowLimit := e.dialect.maxValuesRows.all (b.length ≤ ·)
  if b.isEmpty then .empty
  else if isInsertOnly b && decide (saturatingProduct b.length e.texts.insertWidth < limit) &&
      underRowLimit then .fastPath
  else .staging (options.indexThreshold ≤ b.length)

end Batch

end Tablewright
