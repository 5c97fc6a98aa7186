import Tablewright.Memory.Statement
import Tablewright.Store.Connection

/-!
# The connection to the store in memory

It keeps the statements that it received and can be told to refuse some, to take its time and to
cancel a token after a number of statements. A statement that takes longer than it may never reaches
the store.
-/

namespace Tablewright

/-- The state of a connection to the store in memory. -/
structure MemoryConnection where
  store : MemoryStore
  inTransaction : Bool := true
  /-- The statements that were received, in order. -/
  statements : List String := []
  /-- The number of rows that were loaded into staging tables. -/
  loadedRows : Nat := 0
  /-- Statements with this text in them are refused. -/
  failOn : Option String := none
  /-- How many nanoseconds a statement takes. -/
  delay : Option Nat := none
  /-- A token that is cancelled once so many statements were received. -/
  cancelAfter : Option (Nat × CancelToken) := none
  cancelled : List CancelToken := []
  deriving DecidableEq

namespace MemoryConnection

/-- A connection to a store that holds a table. -/
def ofTable (dialect : Dialect) (table : MemoryTable) : MemoryConnection where
  store := ⟨dialect, table, false, []⟩

/-- The connection with a token cancelled. -/
def cancel (c : MemoryConnection) (token : CancelToken) : MemoryConnection :=
  { c with cancelled := token :: c.cancelled }

/-- The connection with one more statement received. -/
def received (c : MemoryConnection) (sql : String) : MemoryConnection :=
  let c := { c with statements := c.statements ++ [sql] }
  match c.cancelAfter with
  | some (count, token) => if count ≤ c.statements.length then c.cancel token else c
  | none => c

/-- The fault of a statement that is refused. -/
def refusal? (c : MemoryConnection) (sql : String) : Option Fault :=
  match c.failOn with
  | some pattern =>
    if Text.contains pattern.toList sql.toList then some (MemoryFault.injected pattern).toFault else none
  | none => none

/-- Receives a statement, which may be refused. -/
def receive (sql : String) : Operation MemoryConnection Unit := do
  modify fun c => c.received sql
  Operation.require fun c => c.refusal? sql

/-- A step on the store. -/
def onStore {α : Type} (step : MemoryOperation α) : Operation MemoryConnection α :=
  ExceptT.mk fun c =>
    let (answer, store) := step.run c.store
    (answer.mapError MemoryFault.toFault, { c with store })

/-- Runs a statement at once. -/
def run (command : Command) : Operation MemoryConnection MemoryAnswer := do
  receive command.sql
  onStore (MemoryStore.run command.sql (command.parameters.map (·.value)))

/-- The fault of a statement that takes longer than it may. -/
def timeout? (timeout : Option Nat) (c : MemoryConnection) : Option Fault :=
  match timeout, c.delay with
  | some limit, some delay => if limit < delay then some (.timeout limit) else none
  | _, _ => none

/-- Runs a statement after the time that it takes. -/
def execute (command : Command) : Operation MemoryConnection Nat := do
  Operation.require (timeout? command.timeout)
  return (← run command).affected

/-- Runs a statement for its rows. -/
def fetch (command : Command) : StateM MemoryConnection (List (Except Fault Row)) := do
  match ← (run command).run with
  | .ok answer => return answer.rows.map .ok
  | .error fault => return [.error fault]

/-- Loads rows into a staging table. -/
def bulkLoad (load : BulkLoad) : Operation MemoryConnection Nat := do
  receive ("COPY " ++ load.table)
  let count ← onStore (MemoryStore.load load.table load.columns load.rows)
  modify fun c => { c with loadedRows := c.loadedRows + count }
  return count

/-- The connection. -/
def connection : Connection MemoryConnection where
  dialect c := c.store.dialect
  inTransaction c := c.inTransaction
  isCancelled token c := c.cancelled.contains token
  execute := execute
  fetch := fetch
  bulkLoad := bulkLoad

end MemoryConnection

end Tablewright
