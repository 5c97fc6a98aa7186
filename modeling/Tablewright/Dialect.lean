import Tablewright.Text.Ascii
import Tablewright.Text.Numeral

/-!
# Dialects

The two dialects of SQL and their rules: how a name is quoted, how a parameter is named, how many
parameters and rows a statement may hold. `quoteBody` doubles the closing quote inside a name and
`quoteBody_append` says that it works character by character, so that no name can end its quotes.
-/

namespace Tablewright

/-- A dialect of SQL. -/
inductive Dialect where
  | sqlServer
  | postgres
  deriving DecidableEq, Repr, Inhabited

/-- How one statement inserts a row or updates the row that is there. -/
inductive UpsertStrategy where
  | merge
  | onConflict
  deriving DecidableEq, Repr

/-- The name of the form. -/
def UpsertStrategy.name : UpsertStrategy → String
  | merge => "Merge"
  | onConflict => "OnConflict"

/-- The name of the column with the kind of operation in a staging table. -/
def opColumn : String := "__op"

namespace Dialect

/-- Both dialects, in the order of their output. -/
def all : List Dialect := [sqlServer, postgres]

/-- The position in `all`. -/
def rank : Dialect → Nat
  | sqlServer => 0
  | postgres => 1

/-- The name of the dialect. -/
def name : Dialect → String
  | sqlServer => "sql_server"
  | postgres => "postgres"

/-- The schema of a table that names none. -/
def defaultSchema : Dialect → String
  | sqlServer => "dbo"
  | postgres => "public"

/-- The number of parameters that a statement must stay below. -/
def parameterLimit : Dialect → Nat
  | sqlServer => 2100
  | postgres => 10000

/-- The greatest number of rows in one list of values, if there is a limit. -/
def maxValuesRows : Dialect → Option Nat
  | sqlServer => some 1000
  | postgres => none

/-- The form of an upsert. -/
def upsertStrategy : Dialect → UpsertStrategy
  | sqlServer => .merge
  | postgres => .onConflict

/-- What marks a column whose values the store assigns. -/
def identityClause : Dialect → String
  | sqlServer => "IDENTITY(1,1)"
  | postgres => "GENERATED BY DEFAULT AS IDENTITY"

/-- The default of an identifier key. -/
def uuidDefault : Dialect → String
  | sqlServer => "NEWSEQUENTIALID()"
  | postgres => "gen_random_uuid()"

/-- The type of the column with the kind of operation. -/
def opColumnType : Dialect → String
  | sqlServer => "TINYINT"
  | postgres => "SMALLINT"

/-! ## Names -/

/-- The character in front of a quoted name. -/
def openQuote : Dialect → Char
  | sqlServer => '['
  | postgres => '"'

/-- The character behind a quoted name. -/
def closeQuote : Dialect → Char
  | sqlServer => ']'
  | postgres => '"'

/-- A name with each `close` doubled. -/
def quoteBody (close : Char) : List Char → List Char
  | [] => []
  | c :: s => if c = close then c :: c :: quoteBody close s else c :: quoteBody close s

theorem quoteBody_append (close : Char) (s t : List Char) :
    quoteBody close (s ++ t) = quoteBody close s ++ quoteBody close t := by
  induction s with
  | nil => rfl
  | cons c s ih => by_cases h : c = close <;> simp [quoteBody, h, ih]

/-- The quoted name. -/
def quote (d : Dialect) (name : String) : String :=
  String.ofList (d.openQuote :: quoteBody d.closeQuote name.toList ++ [d.closeQuote])

/-- The quoted names of a schema and a table in it. -/
def qualified (d : Dialect) (schema table : String) : String :=
  d.quote schema ++ "." ++ d.quote table

/-- The name of the temporary table that stages rows for a table. -/
def stagingName : Dialect → String → String
  | sqlServer, table => "#" ++ table ++ "_bulk"
  | postgres, table => table ++ "_bulk"

/-- The quoted name of the temporary table that stages rows for a table. -/
def stagingTable (d : Dialect) (table : String) : String :=
  d.quote (d.stagingName table)

/-- The dialect that a name stands for; letter case, hyphens and underscores do not count. -/
def ofName? (name : String) : Option Dialect :=
  let plain := String.ofList ((name.toList.map Char.toLower).filter fun c => c != '-' && c != '_')
  if plain = "sqlserver" ∨ plain = "mssql" then some sqlServer
  else if plain = "postgres" ∨ plain = "postgresql" ∨ plain = "pg" then some postgres
  else none

/-! ## Parameters -/

/-- The placeholder of the `n`-th parameter of a statement, counted from 1. -/
def placeholder : Dialect → Nat → String
  | sqlServer, n => "@p" ++ Text.numeral n
  | postgres, n => "$" ++ Text.numeral n

/-- The name under which the `n`-th parameter is bound. -/
def positionalName : Dialect → Nat → String
  | sqlServer, n => "p" ++ Text.numeral n
  | postgres, n => Text.numeral n

/-- The placeholder of a parameter in a statement for one row: by name where the dialect binds names,
else by position. -/
def namedPlaceholder : Dialect → String → Nat → String
  | sqlServer, name, _ => "@" ++ name
  | postgres, _, n => postgres.placeholder n

/-! ## Limits -/

/-- The number of rows of `width` parameters that keep a statement below `limit` parameters, but one at
least; rows without parameters go one by one. -/
def rowsPerStatement (limit width : Nat) : Nat :=
  if width = 0 then 1 else max ((limit - 1) / width) 1

/-- The number of rows of one statement below both limits of the dialect. -/
def batchRows (d : Dialect) (limit width : Nat) : Nat :=
  match d.maxValuesRows with
  | some greatest => min (rowsPerStatement limit width) greatest
  | none => rowsPerStatement limit width

end Dialect

end Tablewright
