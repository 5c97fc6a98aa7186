import Tablewright.Parameter

/-!
# Commands

What is sent to a store: a statement with its parameters, or rows for a staging table. Timeouts are
numbers of nanoseconds.
-/

namespace Tablewright

/-- A statement and its parameters. -/
structure Command where
  sql : String
  parameters : List Parameter := []
  /-- How long the statement may take, if there is a limit. -/
  timeout : Option Nat := none
  deriving DecidableEq

/-- Rows for a staging table. -/
structure BulkLoad where
  /-- The quoted name of the table. -/
  table : String
  /-- The names of the columns in the order of the values of each row. -/
  columns : List String
  rows : List (List Value)
  timeout : Option Nat := none
  deriving DecidableEq

/-- A call that a connection receives. -/
inductive Call where
  | execute (command : Command)
  | fetch (command : Command)
  | bulkLoad (load : BulkLoad)
  deriving DecidableEq

end Tablewright
