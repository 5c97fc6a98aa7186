import Tablewright.Chunks
import Tablewright.Memory.Script

/-!
# Statements

The statements that the store in memory understands, read from their text and run. Names in a
statement are found by their quotes, so that a statement is understood in one dialect only.
-/

namespace Tablewright

/-- A statement that the store in memory understands. -/
inductive MemoryStatement where
  | script
  | create
  /-- Opens a staging table. -/
  | openStaging (name : String) (columns : List String)
  | truncate
  | insert (columns : List String)
  | upsert (columns : List String)
  | update (columns keys : List String)
  | delete (keys : List String)
  /-- Deletes the rows with any of the values in one column. -/
  | deleteEach (key : List String)
  /-- Reads columns, each under a label. -/
  | select (columns : List (String × String)) (keys : List String)
  deriving DecidableEq, Repr

namespace MemoryStatement

variable (d : Dialect) (target : List Char)

/-- Reads the definition of a table behind its first words. -/
def readCreate (rest : List Char) : MemoryStatement :=
  if Text.startsWith (target ++ [' ']) rest then .create
  else
    let name := ((Text.cut? " (".toList rest).map (·.1)).getD rest
    let (columns, _) := parenthesized (rest.drop name.length)
    .openStaging (String.ofList name) (namesIn d columns)

/-- Reads an insert behind the name of the table. -/
def readInsert (rest : List Char) : MemoryStatement :=
  let (columns, tail) := parenthesized rest
  if Text.contains " ON CONFLICT ".toList tail then .upsert (namesIn d columns)
  else .insert (namesIn d columns)

/-- Reads a merge: the columns stand behind the name of its source. -/
def readMerge (text : List Char) : MemoryStatement :=
  let source := ((Text.split " AS source ".toList text)[1]?).getD []
  .upsert (namesIn d (parenthesized source).1)

/-- Reads an update behind its first words. -/
def readUpdate (rest : List Char) : MemoryStatement :=
  let (columns, keys) := (Text.cut? " WHERE ".toList rest).getD (rest, [])
  .update (namesIn d columns) (namesIn d keys)

/-- Reads a deletion behind its first words. -/
def readDelete (rest : List Char) : MemoryStatement :=
  let keys := namesIn d rest
  if Text.contains " IN ".toList rest then .deleteEach (keys.take 1) else .delete keys

/-- Reads a column of a query: its first name is the column, its last one the label. -/
def readColumn (item : List Char) : Option (String × String) := do
  let names := namesIn d item
  return (← names.head?, ← names.getLast?)

/-- Reads a query behind its first word. -/
def readSelect? (rest : List Char) : Option MemoryStatement := do
  let (columns, tail) ← Text.cut? (" FROM ".toList ++ target) rest
  let keys := ((Text.after? " WHERE ".toList tail).map (namesIn d)).getD []
  return .select ((Text.split ", ".toList columns).filterMap (readColumn d)) keys

/-- Reads a statement. -/
def read? (text : List Char) : Option MemoryStatement :=
  let behind (words : List Char) := Text.after? words text
  if Text.contains ";\n".toList text || Text.startsWith "WITH ".toList text then some .script
  else
    ((behind "CREATE TABLE ".toList).map (readCreate d target)) <|>
    ((behind "CREATE TEMP TABLE ".toList).map (readCreate d target)) <|>
    (if text = "TRUNCATE TABLE ".toList ++ target then some .truncate else none) <|>
    ((behind ("INSERT INTO ".toList ++ target ++ [' '])).map (readInsert d)) <|>
    ((behind ("MERGE INTO ".toList ++ target ++ [' '])).map fun _ => readMerge d text) <|>
    ((behind ("UPDATE ".toList ++ target ++ " SET ".toList)).map (readUpdate d)) <|>
    ((behind ("DELETE FROM ".toList ++ target ++ " WHERE ".toList)).map (readDelete d)) <|>
    ((behind "SELECT ".toList).bind (readSelect? d target))

end MemoryStatement

namespace MemoryTable

/-- Inserts rows of as many values each as there are columns named. -/
def insertRows (t : MemoryTable) (columns : List String) (rows : List (List Value)) : MemoryTable :=
  rows.foldl (fun t values => t.insert columns values) t

/-- Deletes the rows with any of several values in one column, and answers their number. -/
def deleteEach (t : MemoryTable) (key : List String) : List Value → Nat × MemoryTable
  | [] => (0, t)
  | value :: rest =>
    let (count, t) := t.delete key [value]
    let (others, t) := t.deleteEach key rest
    (count + others, t)

/-- The columns of the rows with a key, each under its label. -/
def select (t : MemoryTable) (columns : List (String × String)) (keys : List String)
    (keyValues : List Value) : List Row :=
  let conditions := t.conditions keys keyValues
  let positions := columns.map fun column => t.position? column.1
  (t.rows.filter (meets conditions)).map fun row =>
    { columns := columns.map (·.2)
      values := positions.map fun position => (position.map (valueAt row)).getD .null }

end MemoryTable

/-- What a statement answers: the number of rows that it changed, and rows. -/
structure MemoryAnswer where
  affected : Nat := 0
  rows : List Row := []

namespace MemoryStore

/-- A step that changes the table and answers the number of rows that changed. -/
def changeTable (step : MemoryTable → Nat × MemoryTable) : MemoryOperation MemoryAnswer := do
  let s ← get
  let (affected, table) := step s.table
  set { s with table }
  return { affected }

/-- Runs a statement that was read. -/
def runStatement (text : List Char) (parameters : List Value) :
    MemoryStatement → MemoryOperation MemoryAnswer
  | .script => do return { rows := (← runScript text).toList }
  | .create => do
    modify fun s => { s with created := true }
    return {}
  | .openStaging name columns => do
    modify fun s => s.openStaging name ⟨columns, []⟩
    return {}
  | .truncate => changeTable fun t => (0, t.truncate)
  | .insert columns =>
    let rows := chunks columns.length parameters
    changeTable fun t => (rows.length, t.insertRows columns rows)
  | .upsert columns => changeTable fun t => t.upsert columns parameters
  | .update columns keys =>
    changeTable fun t => t.update keys (parameters.drop columns.length) columns
      (parameters.take columns.length)
  | .delete keys => changeTable fun t => t.delete keys parameters
  | .deleteEach key => changeTable fun t => t.deleteEach key parameters
  | .select columns keys => do return { rows := (← get).table.select columns keys parameters }

/-- Runs a statement with the values of its parameters. -/
def run (sql : String) (parameters : List Value) : MemoryOperation MemoryAnswer := do
  let text := Text.trim sql.toList
  let s ← get
  let statement ← MonadExcept.ofExcept
    (readOr text (MemoryStatement.read? s.dialect s.table.name.toList text))
  runStatement text parameters statement

/-- Loads rows into a staging table and answers their number. -/
def load (table : String) (columns : List String) (rows : List (List Value)) :
    MemoryOperation Nat := do
  let s ← get
  match s.staging.lookup table with
  | none => throw (.notOpen table)
  | some staging =>
    if staging.columns ≠ columns then throw (.loadColumns table staging.columns columns)
    set (s.openStaging table { staging with rows := staging.rows ++ rows })
    return rows.length

end MemoryStore

end Tablewright
