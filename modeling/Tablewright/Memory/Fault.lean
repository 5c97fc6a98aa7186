import Tablewright.Fault
import Tablewright.Text.Numeral
import Tablewright.Text.Quoted

/-!
# Faults of the store in memory

Why the store in memory refuses a statement, and the text of each cause.
-/

namespace Tablewright

/-- Why the store in memory refuses a statement. -/
inductive MemoryFault where
  /-- The statement is none of those that the store understands. -/
  | notUnderstood (text : String)
  /-- A statement names a staging table that is not open. -/
  | noTable (table : String)
  /-- A statement names a column that its table lacks. -/
  | noColumn (column table : String)
  /-- A script uses a variable that it did not declare. -/
  | undeclared (variableName : String)
  /-- A script counts the rows of a part that it does not have. -/
  | noPart (part : String)
  /-- A script drops a staging table that is not open. -/
  | cannotDrop (table : String)
  /-- A script inserts another number of columns than it selects. -/
  | columnCount (named selected : Nat)
  /-- Rows are loaded into a staging table that is not open. -/
  | notOpen (table : String)
  /-- Rows are loaded under other columns than those of the staging table. -/
  | loadColumns (table : String) (has sends : List String)
  /-- The store was told to refuse the statement. -/
  | injected (pattern : String)
  deriving DecidableEq, Repr

namespace MemoryFault

/-- A list of names, each in double quotes. -/
def namesText (names : List String) : String :=
  "[" ++ String.intercalate ", " (names.map Text.QuoteStyle.shown.quote) ++ "]"

/-- The text of the fault. -/
def message : MemoryFault → String
  | notUnderstood text => "mock connection cannot run `" ++ text ++ "`"
  | noTable table => "invalid object name " ++ table
  | noColumn column table => "invalid column name " ++ column ++ " in " ++ table
  | undeclared variableName => "must declare the scalar variable " ++ variableName
  | noPart part => "relation \"" ++ part ++ "\" does not exist"
  | cannotDrop table => "cannot drop " ++ table ++ ": it does not exist"
  | columnCount named selected =>
    "INSERT names " ++ Text.numeral named ++ " columns but selects " ++ Text.numeral selected
  | notOpen table => table ++ " does not exist"
  | loadColumns table has sends =>
    table ++ " has columns " ++ namesText has ++ ", load sends " ++ namesText sends
  | injected pattern => "injected failure on `" ++ pattern ++ "`"

/-- The fault as that of an operation. -/
def toFault (f : MemoryFault) : Fault :=
  .driver f.message

end MemoryFault

end Tablewright
