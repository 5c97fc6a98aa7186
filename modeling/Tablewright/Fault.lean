import Tablewright.Dialect
import Tablewright.Text.Duration

/-!
# Faults

Why an operation on a store fails, and the text of each cause. Nothing is tried twice.
-/

namespace Tablewright

/-- Why an operation fails. -/
inductive Fault where
  /-- The database answered with an error. -/
  | database (text : String)
  /-- What the database answered could not be read. -/
  | unreadable
  /-- A connection of another kind failed. -/
  | driver (text : String)
  /-- The operation has to run inside a transaction. -/
  | transactionRequired (operation : String)
  /-- The statements are for another dialect than that of the connection. -/
  | dialectMismatch (expected actual : Dialect)
  /-- The caller cancelled the operation between two statements. -/
  | cancelled
  /-- A statement took longer than it may. -/
  | timeout (nanoseconds : Nat)
  /-- The table has no statement for the operation. -/
  | unsupported (operation table : String)
  /-- A column's value is not what the model holds. -/
  | decode (column message : String)
  /-- The script that applies a batch did not report what it changed. -/
  | missingCounts
  deriving DecidableEq, Repr

namespace Fault

/-- The name of the cause. -/
def kind : Fault → String
  | database _ | unreadable => "Sqlx"
  | driver _ => "Driver"
  | transactionRequired _ => "TransactionRequired"
  | dialectMismatch _ _ => "DialectMismatch"
  | cancelled => "Cancelled"
  | timeout _ => "Timeout"
  | unsupported _ _ => "Unsupported"
  | decode _ _ => "Decode"
  | missingCounts => "MissingCounts"

/-- The text of the fault; what could not be read has none of its own. -/
def message? : Fault → Option String
  | database text => some ("sqlx error: error returned from database: " ++ text)
  | unreadable => none
  | driver text => some ("driver error: " ++ text)
  | transactionRequired operation => some ("`" ++ operation ++ "` requires an open transaction")
  | dialectMismatch expected actual =>
    some ("statement generated for " ++ expected.name ++ " cannot run on a " ++ actual.name ++
      " connection")
  | cancelled => some "operation cancelled"
  | timeout nanoseconds => some ("statement timed out after " ++ Text.durationText nanoseconds)
  | unsupported operation table =>
    some ("`" ++ operation ++ "` is not available for table " ++ table)
  | decode column message => some ("cannot decode column `" ++ column ++ "`: " ++ message)
  | missingCounts => some "apply statement returned no counts"

end Fault

end Tablewright
