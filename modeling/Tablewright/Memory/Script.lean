import Tablewright.Memory.Store
import Tablewright.Row

/-!
# Scripts

The scripts that apply staged rows, run on the store in memory. A script is a list of statements; in
one dialect they count the rows of each statement in variables, in the other one statement has parts
that change the table and counts their rows. All parts of such a statement see the table without the
rows that one of them inserts.
-/

namespace Tablewright

namespace MemoryTable

/-- New rows of named values, made one after the other, and the table that has not got them yet. -/
def newRows (t : MemoryTable) (names : List String) :
    List (List Value) → List (List Value) × MemoryTable
  | [] => ([], t)
  | values :: rest =>
    let (row, t) := t.newRow names values
    let (rows, t) := t.newRows names rest
    (row :: rows, t)

end MemoryTable

namespace MemoryStore

/-- A step that replaces the store and answers a number of rows, unless it is refused. -/
def replace (step : MemoryStore → Except MemoryFault (Nat × MemoryStore)) : MemoryOperation Nat := do
  let (count, s) ← MonadExcept.ofExcept (step (← get))
  set s
  return count

/-- The rows that a staged insert adds; the store has assigned their values but does not hold them. -/
def newStagedRows (text : List Char) : MemoryOperation (List (List Value)) := do
  let s ← get
  let (names, values) ← MonadExcept.ofExcept (s.readStagedInsert text)
  let (rows, table) := s.table.newRows names values
  set { s with table }
  return rows

/-- Adds rows to the table. -/
def addRows (rows : List (List Value)) : MemoryOperation Unit :=
  modify fun s => { s with table := { s.table with rows := s.table.rows ++ rows } }

/-- A predicate over a join, as one list of conditions. -/
def joinConditions (on filter : List Char) : List Char :=
  on ++ " AND ".toList ++ filter

/-! ## Statements of a script -/

/-- A statement of a script that changes the table or a staging table. -/
inductive StagedStatement where
  | insert (rest : List Char)
  | update (staging settings conditions : List Char)
  | delete (staging conditions : List Char)
  /-- An index on columns of a staging table. -/
  | index (staging columns : List Char)
  /-- Statistics on a staging table. -/
  | analyze (staging : List Char)
  | drop (staging : List Char)
  deriving DecidableEq, Repr

/-- The forms of a statement, of which each either does not begin like the text or reads it. -/
abbrev Form := List Char → Option (Option StagedStatement)

/-- Reads `target AS t INNER JOIN staging AS s ON joins WHERE filter` behind the words in front. -/
def readJoin (source : List Char) : Option (List Char × List Char) := do
  let (staging, rest) ← Text.cut? " AS s ON ".toList source
  let (on, filter) ← Text.cut? " WHERE ".toList rest
  return (staging, joinConditions on filter)

/-- The forms, in the order in which they are tried. -/
def forms (target : List Char) : List Form :=
  [ fun text => (Text.after? ("INSERT INTO ".toList ++ target ++ [' ']) text).map fun rest =>
      some (.insert rest),
    fun text => (Text.after? "UPDATE t SET ".toList text).map fun rest => do
      let (settings, source) ← Text.cut? " FROM ".toList rest
      let source ← Text.after? (target ++ " AS t INNER JOIN ".toList) source
      let (staging, conditions) ← readJoin source
      return .update staging settings conditions,
    fun text => (Text.after? ("UPDATE ".toList ++ target ++ " AS t SET ".toList) text).map fun rest => do
      let (settings, source) ← Text.cut? " FROM ".toList rest
      let (staging, conditions) ← Text.cut? " AS s WHERE ".toList source
      return .update staging settings conditions,
    fun text => (Text.after? ("DELETE t FROM ".toList ++ target ++ " AS t INNER JOIN ".toList) text).map
      fun rest => do
        let (staging, conditions) ← readJoin rest
        return .delete staging conditions,
    fun text => (Text.after? ("DELETE FROM ".toList ++ target ++ " AS t USING ".toList) text).map
      fun rest => do
        let (staging, conditions) ← Text.cut? " AS s WHERE ".toList rest
        return .delete staging conditions,
    fun text =>
      let clustered := do
        let rest ← Text.after? "CREATE CLUSTERED INDEX ".toList text
        let (_, rest) ← Text.cut? " ON ".toList rest
        return rest
      (clustered <|> Text.after? "CREATE INDEX ON ".toList text).map fun rest => do
        let (staging, columns) ← Text.cut? " (".toList rest
        return .index staging columns,
    fun text => (Text.after? "ANALYZE ".toList text).map fun rest => some (.analyze rest),
    fun text => (Text.after? "DROP TABLE ".toList text).map fun rest => some (.drop rest) ]

/-- Reads a statement by the first form that begins like it. -/
def readStaged? (target text : List Char) : Option StagedStatement :=
  ((forms target).findSome? fun form => form text).join

/-- Runs a statement and answers the number of rows that it changed. -/
def runStaged (text : List Char) : MemoryOperation Nat := do
  let s ← get
  let statement ← MonadExcept.ofExcept (readOr text (readStaged? s.table.name.toList text))
  match statement with
  | .insert rest =>
    let rows ← newStagedRows rest
    addRows rows
    return rows.length
  | .update staging settings conditions =>
    replace fun s => s.stagedUpdate (String.ofList staging) settings conditions
  | .delete staging conditions => replace fun s => s.stagedDelete (String.ofList staging) conditions
  | .index staging columns =>
    let names := namesIn s.dialect columns
    let _ ← MonadExcept.ofExcept (names.mapM (s.stagingColumn (String.ofList staging)))
    return 0
  | .analyze staging =>
    let _ ← MonadExcept.ofExcept (s.stagingTable (String.ofList staging))
    return 0
  | .drop staging =>
    let name := String.ofList staging
    if s.staging.any (·.1 == name) then
      set (s.closeStaging name)
      return 0
    else throw (.cannotDrop name)

/-! ## Statements with parts -/

/-- What a statement with parts has done so far. -/
structure PartCounts where
  counts : List (String × Nat) := []
  /-- Rows that the statement adds when all parts have run. -/
  pending : List (List Value) := []

/-- Runs one part, `name AS (statement RETURNING 1)`. -/
def runPart (done : PartCounts) (text : List Char) : MemoryOperation PartCounts := do
  let (name, rest) ← MonadExcept.ofExcept (readOr text (Text.cut? " AS ".toList text))
  let (inner, _) := parenthesized rest
  let statement ← MonadExcept.ofExcept (readOr inner (Text.before? " RETURNING 1".toList inner))
  let name := String.ofList (Text.trim name)
  let target := (← get).table.name.toList
  match Text.after? ("INSERT INTO ".toList ++ target ++ [' ']) statement with
  | some insert =>
    let rows ← newStagedRows insert
    return { counts := (name, rows.length) :: done.counts, pending := done.pending ++ rows }
  | none =>
    let count ← runStaged statement
    return { done with counts := (name, count) :: done.counts }

/-- The number that an item of the final list stands for: the rows of a part, or itself. -/
def partValue (counts : List (String × Nat)) (item expression : List Char) : Except MemoryFault Int :=
  let plain := (Text.before? "::BIGINT".toList expression).getD expression
  match (Text.after? "(SELECT COUNT(*) FROM ".toList plain).bind (Text.before? [')']) with
  | some name =>
    match counts.lookup (String.ofList name) with
    | some count => .ok (count : Int)
    | none => .error (.noPart (String.ofList name))
  | none => readOr item (readInt64? plain)

/-- A column of a result: its name, and a count in it. -/
abbrev CountColumn := String × Int

/-- The row of named counts. -/
def countRow (columns : List CountColumn) : Row where
  columns := columns.map (·.1)
  values := columns.map fun column => .int64 (Int64.ofInt column.2)

/-- Reads an item of the final list of counts. -/
def readPartCount (d : Dialect) (counts : List (String × Nat)) (item : List Char) :
    Except MemoryFault CountColumn := do
  let (expression, label) ← readOr item (Text.cutLast? " AS ".toList item)
  let value ← partValue counts item expression
  return (← nameIn d label, value)

/-- Runs a statement with parts and answers the row of its counts. -/
def runParts (body : List Char) : MemoryOperation Row := do
  let (parts, list) ← MonadExcept.ofExcept (readOr body (Text.cut? "\nSELECT ".toList body))
  let done ← (Text.split ",\n".toList parts).foldlM runPart {}
  addRows done.pending
  let d := (← get).dialect
  let columns ← MonadExcept.ofExcept
    ((Text.split ", ".toList list).mapM (readPartCount d done.counts))
  return countRow columns

/-! ## Scripts with variables -/

/-- What a script has done so far. -/
structure ScriptProgress where
  counters : List (String × Int) := []
  /-- The number of rows that the last statement changed. -/
  rowCount : Int := 0
  /-- The last row that the script answered. -/
  answer : Option Row := none

namespace ScriptProgress

/-- Declares a variable, `@name BIGINT = value`. -/
def declare (statement : List Char) (p : ScriptProgress) (text : List Char) :
    Except MemoryFault ScriptProgress := do
  let (name, value) ← readOr statement (Text.cut? " BIGINT = ".toList text)
  let value ← readOr statement (readInt64? value)
  return { p with counters := (String.ofList name, value) :: p.counters }

/-- Keeps the number of rows of the last statement in a variable. -/
def keepRowCount (p : ScriptProgress) (statement rest : List Char) :
    Except MemoryFault ScriptProgress := do
  let (name, source) ← readOr statement (Text.cut? " = ".toList rest)
  let name := String.ofList ('@' :: name)
  if source ≠ "@@ROWCOUNT".toList then throw (.ofText statement)
  if (p.counters.lookup name).isNone then throw (.undeclared name)
  return { p with counters := (name, p.rowCount) :: p.counters }

/-- Reads an item of a list of variables. -/
def readVariable (p : ScriptProgress) (d : Dialect) (statement item : List Char) :
    Except MemoryFault CountColumn := do
  let (name, label) ← readOr statement (Text.cut? " AS ".toList item)
  match p.counters.lookup (String.ofList name) with
  | some value => return (← nameIn d label, value)
  | none => throw (.undeclared (String.ofList name))

/-- Answers a row of variables. -/
def answerVariables (p : ScriptProgress) (d : Dialect) (statement list : List Char) :
    Except MemoryFault ScriptProgress := do
  let columns ← (Text.split ", ".toList list).mapM (p.readVariable d statement)
  return { p with answer := some (countRow columns) }

end ScriptProgress

/-- Runs a statement of a script. -/
def runScriptStatement (p : ScriptProgress) (statement : List Char) :
    MemoryOperation ScriptProgress := do
  if statement.isEmpty || statement == "SET NOCOUNT ON".toList then return p
  if let some list := Text.after? "DECLARE ".toList statement then
    return ← MonadExcept.ofExcept ((Text.split ", ".toList list).foldlM (ScriptProgress.declare statement) p)
  if let some rest := Text.after? "SET @".toList statement then
    return ← MonadExcept.ofExcept (p.keepRowCount statement rest)
  if let some rest := Text.after? "SELECT @".toList statement then
    let d := (← get).dialect
    return ← MonadExcept.ofExcept (p.answerVariables d statement ('@' :: rest))
  if let some body := Text.after? "WITH ".toList statement then
    let row ← runParts body
    return { p with answer := some row }
  let count ← runStaged statement
  return { p with rowCount := count }

/-- The statements of a script. -/
def scriptStatements (text : List Char) : List (List Char) :=
  (Text.split ";\n".toList text).map fun piece => Text.trimEndOf ';' (Text.trim piece)

/-- Runs a script and answers its last row. -/
def runScript (text : List Char) : MemoryOperation (Option Row) := do
  let done ← (scriptStatements text).foldlM runScriptStatement {}
  return done.answer

end MemoryStore

end Tablewright
