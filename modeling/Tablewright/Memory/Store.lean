import Tablewright.Memory.Fault
import Tablewright.Memory.Table
import Tablewright.Number.Power
import Tablewright.Sql.QuotedName
import Tablewright.Text.Blank
import Tablewright.Text.Split

/-!
# The store in memory

One table and the staging tables that were opened beside it. The store reads the statements that it
is sent as text; what a name or a condition in such a text means depends on the columns of the tables.
-/

namespace Tablewright

/-- A staging table. -/
structure StagingTable where
  columns : List String
  rows : List (List Value)
  deriving DecidableEq

/-- The contents of the store. -/
structure MemoryStore where
  dialect : Dialect
  table : MemoryTable
  /-- Whether the table's definition was run. -/
  created : Bool
  /-- The open staging tables by their quoted names. -/
  staging : List (String × StagingTable)
  deriving DecidableEq

/-- A step of the store, which may change it before it refuses to go on. -/
abbrev MemoryOperation (α : Type) := ExceptT MemoryFault (StateM MemoryStore) α

/-- The fault of a text that the store does not understand. -/
def MemoryFault.ofText (text : List Char) : MemoryFault :=
  .notUnderstood (String.ofList text)

/-- What was read, or the fault of the text in which it was not found. -/
def readOr {α : Type} (text : List Char) : Option α → Except MemoryFault α
  | some found => .ok found
  | none => .error (.ofText text)

/-! ## Reading statements -/

/-- A text in parentheses and the text behind it. -/
def takeParenthesized (depth : Nat) : List Char → List Char × List Char
  | [] => ([], [])
  | c :: s =>
    if c = ')' ∧ depth = 0 then ([], s)
    else
      let deeper := if c = '(' then depth + 1 else if c = ')' then depth - 1 else depth
      let (inner, rest) := takeParenthesized deeper s
      (c :: inner, rest)

/-- The text in the parentheses with which a text begins, and the text behind them. -/
def parenthesized (text : List Char) : List Char × List Char :=
  match Text.trimStart text with
  | '(' :: s => takeParenthesized 0 s
  | s => ([], s)

/-- The quoted names in a text. -/
def namesIn (d : Dialect) (text : List Char) : List String :=
  (Sql.quotedNames d text).map String.ofList

/-- The quoted name in a text that holds one and no more. -/
def nameIn (d : Dialect) (text : List Char) : Except MemoryFault String :=
  match namesIn d text with
  | [name] => .ok name
  | _ => .error (.ofText text)

/-- One side of a condition or of an assignment. -/
inductive Operand where
  /-- A column of the table. -/
  | target (column : String)
  /-- A column of a staging table. -/
  | staging (column : String)
  | number (n : Int)
  deriving DecidableEq, Repr

/-- An integer of 64 bits. -/
def readInt64? (text : List Char) : Option Int :=
  Text.readInt? (-twoTo 63) (twoTo 63 - 1) text

/-- Reads one side; a column without an alias is one of the table. -/
def readOperand (d : Dialect) (text : List Char) : Except MemoryFault Operand :=
  let text := Text.trim text
  match Text.after? "t.".toList text with
  | some column => .target <$> nameIn d column
  | none =>
    match Text.after? "s.".toList text with
    | some column => .staging <$> nameIn d column
    | none =>
      match readInt64? text with
      | some n => .ok (.number n)
      | none => .target <$> nameIn d text

namespace MemoryStore

variable (s : MemoryStore)

/-! ## Looking names up -/

/-- The staging table of a name. -/
def stagingTable (name : String) : Except MemoryFault StagingTable :=
  match s.staging.lookup name with
  | some table => .ok table
  | none => .error (.noTable name)

/-- The position of a column in a staging table. -/
def stagingColumn (name column : String) : Except MemoryFault Nat := do
  let table ← s.stagingTable name
  match table.columns.findIdx? (· == column) with
  | some i => return i
  | none => throw (.noColumn column name)

/-- The position of a column in the table. -/
def targetColumn (column : String) : Except MemoryFault Nat :=
  match s.table.position? column with
  | some i => .ok i
  | none => .error (.noColumn column s.table.name)

/-- The store with a staging table, in the place of one of that name. -/
def openStaging (name : String) (table : StagingTable) : MemoryStore :=
  { s with staging := (name, table) :: s.staging.filter (·.1 != name) }

/-- The store without a staging table. -/
def closeStaging (name : String) : MemoryStore :=
  { s with staging := s.staging.filter (·.1 != name) }

/-! ## Conditions -/

/-- A condition on a row of the table and a staged row, by positions of columns. -/
inductive Condition where
  /-- The two rows agree. -/
  | join (target staging : Nat)
  /-- The staged row holds a number. -/
  | holds (staging : Nat) (n : Int)
  deriving DecidableEq, Repr

/-- Reads a condition. -/
def readCondition (staging : String) (text : List Char) : Except MemoryFault Condition := do
  let (left, right) ← readOr text (Text.cut? " = ".toList text)
  let left ← readOperand s.dialect left
  let right ← readOperand s.dialect right
  match left, right with
  | .target t, .staging c | .staging c, .target t =>
    let target ← s.targetColumn t
    return .join target (← s.stagingColumn staging c)
  | .staging c, .number n => return .holds (← s.stagingColumn staging c) n
  | _, _ => throw (.ofText text)

/-- What joins the table to staged rows, and the staged rows that are left. -/
structure Selection where
  joins : List (Nat × Nat)
  rows : List (List Value)

/-- The pairs of columns that conditions join. -/
def joinsOf (conditions : List Condition) : List (Nat × Nat) :=
  conditions.filterMap fun
    | .join target staging => some (target, staging)
    | .holds _ _ => none

/-- Whether a staged row holds the numbers that conditions ask for. -/
def keeps (conditions : List Condition) (row : List Value) : Bool :=
  conditions.all fun
    | .join _ _ => true
    | .holds staging n => (MemoryTable.valueAt row staging).toInt? == some n

/-- Reads conditions and selects the staged rows. -/
def select (staging : String) (text : List Char) : Except MemoryFault Selection := do
  let conditions ← (Text.split " AND ".toList text).mapM (s.readCondition staging)
  let table ← s.stagingTable staging
  return ⟨joinsOf conditions, table.rows.filter (keeps conditions)⟩

/-- Whether a row of the table and a staged row agree in the columns that join them. -/
def joined (joins : List (Nat × Nat)) (row source : List Value) : Bool :=
  joins.all fun (target, staging) =>
    (MemoryTable.valueAt row target).sameKey (MemoryTable.valueAt source staging)

/-! ## Applying staged rows -/

/-- Reads an assignment of a staged column to one of the table. -/
def readAssignment (staging : String) (text : List Char) : Except MemoryFault (Nat × Nat) := do
  let (left, right) ← readOr text (Text.cut? " = ".toList text)
  let left ← readOperand s.dialect left
  let right ← readOperand s.dialect right
  match left, right with
  | .target t, .staging c =>
    let target ← s.targetColumn t
    return (target, ← s.stagingColumn staging c)
  | _, _ => throw (.ofText text)

/-- Reads a staged column that an insert picks. -/
def readPick (staging : String) (text : List Char) : Except MemoryFault Nat := do
  match ← readOperand s.dialect text with
  | .staging column => s.stagingColumn staging column
  | _ => throw (.ofText text)

/-- Reads `(columns) SELECT picks FROM staging AS s WHERE conditions`: the columns that it names, and
the values of the rows that it adds. -/
def readStagedInsert (text : List Char) : Except MemoryFault (List String × List (List Value)) := do
  let (columns, tail) := parenthesized text
  let names := namesIn s.dialect columns
  let _ ← names.mapM s.targetColumn
  let query ← readOr text (Text.after? "SELECT ".toList (Text.trimStart tail))
  let (picks, source) ← readOr text (Text.cut? " FROM ".toList query)
  let (staging, filter) ← readOr text (Text.cut? " AS s WHERE ".toList source)
  let staging := String.ofList staging
  let positions ← (Text.split ", ".toList picks).mapM (s.readPick staging)
  if positions.length ≠ names.length then throw (.columnCount names.length positions.length)
  let selection ← s.select staging filter
  return (names, selection.rows.map fun source => positions.map (MemoryTable.valueAt source))

/-- A row of the table after the first staged row that is joined to it. -/
def updateRow (joins assignments : List (Nat × Nat)) (sources : List (List Value))
    (row : List Value) : Option (List Value) :=
  (sources.find? (joined joins row)).map fun source =>
    assignments.foldl (fun row (target, staging) => row.set target (MemoryTable.valueAt source staging)) row

/-- Updates the rows of the table that are joined to staged rows, and answers their number. -/
def stagedUpdate (staging : String) (settings conditions : List Char) :
    Except MemoryFault (Nat × MemoryStore) := do
  let assignments ← (Text.split ", ".toList settings).mapM (s.readAssignment staging)
  let selection ← s.select staging conditions
  let updated := s.table.rows.map (updateRow selection.joins assignments selection.rows)
  let rows := List.zipWith (fun row after => after.getD row) s.table.rows updated
  return (updated.countP Option.isSome, { s with table := { s.table with rows } })

/-- Deletes the rows of the table that are joined to staged rows, and answers their number. -/
def stagedDelete (staging : String) (conditions : List Char) :
    Except MemoryFault (Nat × MemoryStore) := do
  let selection ← s.select staging conditions
  let gone := fun row => selection.rows.any (joined selection.joins row)
  return (s.table.rows.countP gone,
    { s with table := { s.table with rows := s.table.rows.filter fun row => !gone row } })

end MemoryStore

end Tablewright
