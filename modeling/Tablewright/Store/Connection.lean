import Tablewright.Row
import Tablewright.Store.Command

/-!
# Connections

A connection to a store with states `σ`. Its operations change the state and answer or fail; a fault
undoes nothing by itself. `Connection.recorded` keeps the calls that a connection receives and changes
neither its answers nor its states.
-/

namespace Tablewright

/-- A step on a store: the state afterwards, and an answer or a fault. -/
abbrev Operation (σ α : Type) := ExceptT Fault (StateM σ) α

/-- What a caller holds to stop an operation between two of its statements. -/
structure CancelToken where
  id : Nat
  deriving DecidableEq, Repr

/-- A connection to a store. -/
structure Connection (σ : Type) where
  /-- The dialect that the store understands. -/
  dialect : σ → Dialect
  /-- Whether statements run inside a transaction that the caller ends. -/
  inTransaction : σ → Bool
  /-- Whether the caller has cancelled. -/
  isCancelled : CancelToken → σ → Bool
  /-- Runs a statement and answers the number of rows that it changed. -/
  execute : Command → Operation σ Nat
  /-- Runs a statement and answers its rows in order; a row that cannot be read is a fault in its
  place. -/
  fetch : Command → StateM σ (List (Except Fault Row))
  /-- Loads rows into a staging table and answers their number. -/
  bulkLoad : BulkLoad → Operation σ Nat

namespace Operation

variable {σ : Type}

/-- The sum of what operations answer, one run after the other until one fails. -/
def total : List (Operation σ Nat) → Operation σ Nat
  | [] => pure 0
  | first :: rest => do
    let n ← first
    let others ← total rest
    return n + others

/-- An operation that does nothing but fail if there is a fault. -/
def require (fault? : σ → Option Fault) : Operation σ Unit := do
  match fault? (← get) with
  | some fault => throw fault
  | none => return ()

end Operation

namespace Connection

variable {σ : Type} (conn : Connection σ)

/-- The rows of a statement, or the first fault among them. -/
def fetchAll (command : Command) : Operation σ (List Row) :=
  ExceptT.mk ((·.mapM id) <$> conn.fetch command)

/-- Fails unless the store understands a dialect. -/
def requireDialect (expected : Dialect) : Operation σ Unit :=
  Operation.require fun s =>
    if conn.dialect s = expected then none else some (.dialectMismatch expected (conn.dialect s))

/-- Fails unless a transaction is open. -/
def requireTransaction (operation : String) : Operation σ Unit :=
  Operation.require fun s =>
    if conn.inTransaction s then none else some (.transactionRequired operation)

/-- Fails once the caller has cancelled. -/
def checkpoint (token : Option CancelToken) : Operation σ Unit :=
  Operation.require fun s =>
    if token.any (conn.isCancelled · s) then some .cancelled else none

/-- Executes a statement of a dialect. -/
def executeIn (dialect : Dialect) (command : Command) : Operation σ Nat := do
  conn.requireDialect dialect
  conn.execute command

/-- Fetches the rows of a statement of a dialect. -/
def fetchIn (dialect : Dialect) (command : Command) : Operation σ (List Row) := do
  conn.requireDialect dialect
  conn.fetchAll command

/-! ## Recorded calls -/

/-- An operation that first notes a call behind those already noted. -/
def noting {α : Type} (call : Call) (run : StateM σ α) : StateM (σ × List Call) α := fun s =>
  let (answer, after) := run s.1
  (answer, (after, s.2 ++ [call]))

/-- The same connection, with the calls that it receives. -/
def recorded : Connection (σ × List Call) where
  dialect s := conn.dialect s.1
  inTransaction s := conn.inTransaction s.1
  isCancelled token s := conn.isCancelled token s.1
  execute command := noting (.execute command) (conn.execute command)
  fetch command := noting (.fetch command) (conn.fetch command)
  bulkLoad load := noting (.bulkLoad load) (conn.bulkLoad load)

end Connection

end Tablewright
