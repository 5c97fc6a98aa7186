import Tablewright.Postgres.Cell
import Tablewright.Postgres.Copy
import Tablewright.Row
import Tablewright.Store.Command
import Tablewright.Text.Blank
import Tablewright.Text.Split

/-!
# Messages of a PostgreSQL server

What a client sends for a command, and how the rows that a server answers are read. A command without
parameters that holds several statements is sent as a script and answered as text; any other is prepared
and bound, and answered in binary form.
-/

namespace Tablewright

open Postgres

/-- Whether a command is sent as a script: it has no parameters, and a semicolon in front of its last
characters. -/
def Command.isScript (c : Command) : Bool :=
  c.parameters.isEmpty && (Text.trimEndOf ';' (Text.trimEnd c.sql.toList)).contains ';'

namespace Postgres

/-- What a client sends. -/
inductive Message where
  | script (sql : String)
  /-- A statement and the types of its parameters. -/
  | prepare (sql : String) (types : List Nat)
  /-- Which parameters are null. -/
  | bind (nulls : List Bool)
  /-- Lines for a table, in chunks; none if the server refuses them. -/
  | copy (sql : String) (chunks : Option (List String))
  deriving DecidableEq, Repr

/-! ## Parameters -/

/-- The kind by which a null of a column type is sent. -/
def kindOfType : ColumnType → CellKind
  | .postgres t =>
    match t with
    | .boolean => .bool
    | .smallInt => .int2
    | .integer => .int4
    | .bigInt => .int8
    | .real => .float4
    | .doublePrecision => .float8
    | .numeric => .numeric
    | .char | .varChar | .text => .text
    | .bytea => .bytea
    | .date => .date
    | .time => .time
    | .timestamp => .timestamp
    | .timestampTz => .timestampTz
    | .uuid => .uuid
  | .sqlServer t =>
    match t.family with
    | .boolean => .bool
    | .integer => .int8
    | .float => .float8
    | .decimal => .numeric
    | .binary => .bytea
    | .uuid => .uuid
    | .text | .temporal => .text

/-- The kind by which a parameter is sent: that of its value, or of its declared type if it is null. -/
def parameterKind (p : Parameter) : CellKind :=
  match p.value with
  | .null => kindOfType p.type
  | .bool _ => .bool
  | .int16 _ => .int2
  | .int32 _ => .int4
  | .int64 _ => .int8
  | .float32 _ => .float4
  | .float64 _ => .float8
  | .decimal _ => .numeric
  | .text _ => .text
  | .bytes _ => .bytea
  | .uuid _ => .uuid
  | .date _ => .date
  | .time _ => .time
  | .dateTime _ => .timestamp
  | .dateTimeUtc _ => .timestampTz

/-- The message that prepares a command. -/
def prepareMessage (c : Command) : Message :=
  .prepare c.sql (c.parameters.map fun p => (parameterKind p).typeNumber)

/-- The message that binds the parameters of a command. -/
def bindMessage (c : Command) : Message :=
  .bind (c.parameters.map fun p => p.value.isNull)

/-! ## Replies -/

/-- The rows of one statement. A cell in binary form is written in hexadecimal digits. -/
structure ResultSet where
  /-- The columns and the numbers of their types. -/
  columns : List (String × Nat) := []
  rows : List (List (Option String)) := []
  affected : Nat := 0
  deriving DecidableEq, Repr

/-- What a server replies: for each statement its rows or the text of an error, which is the last. -/
abbrev Reply := List (Except String ResultSet)

/-- How a server sends cells. -/
inductive CellFormat where
  | text
  | binary
  deriving DecidableEq, Repr

/-- The value of a cell. -/
def readCell? (format : CellFormat) (kind : CellKind) (cell : String) : Option Value :=
  match format with
  | .text => readText? kind cell
  | .binary => (Text.hexBytes? cell.toList).bind (readBinary? kind)

/-- The value in a column of a row. -/
def readColumn (format : CellFormat) (column : String × Nat) (cell : Option String) :
    Except Fault Value :=
  let name := typeName column.2
  match CellKind.ofTypeName? name with
  | none => .error (.decode column.1 ("unsupported column type " ++ name))
  | some kind =>
    match cell with
    | none => .ok .null
    | some cell =>
      match readCell? format kind cell with
      | some value => .ok value
      | none => .error .unreadable

/-- The values of a row. -/
def readValues (format : CellFormat) (columns : List (String × Nat)) (cells : List (Option String)) :
    Except Fault (List Value) :=
  (columns.zip cells).mapM fun (column, cell) => readColumn format column cell

/-- The values of all rows of a reply, each with the columns of its statement, and its error. -/
def readReply (format : CellFormat) (reply : Reply) : List (Except Fault (List String × List Value)) :=
  reply.flatMap fun
    | .error text => [.error (.database text)]
    | .ok set => set.rows.map fun cells =>
        (readValues format set.columns cells).map (set.columns.map (·.1), ·)

/-- The list up to the first fault. -/
def untilFault {α : Type} : List (Except Fault α) → List (Except Fault α)
  | [] => []
  | .error fault :: _ => [.error fault]
  | .ok x :: rest => .ok x :: untilFault rest

/-- The rows of a reply up to the first fault. All of them have the columns of the first row. -/
def replyRows (format : CellFormat) (reply : Reply) : List (Except Fault Row) :=
  let columns := reply.findSome? fun
    | .error _ => none
    | .ok set => if set.rows.isEmpty then none else some (set.columns.map (·.1))
  untilFault ((readReply format reply).map (·.map fun row => ⟨columns.getD row.1, row.2⟩))

/-- The number of rows that the statements of a reply changed, or its error. -/
def replyCount : Reply → Except Fault Nat
  | [] => .ok 0
  | .error text :: _ => .error (.database text)
  | .ok set :: rest => (replyCount rest).map (set.affected + ·)

end Postgres

end Tablewright
