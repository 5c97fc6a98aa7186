import Tablewright.Fault
import Tablewright.Value.Scalar

/-!
# Rows

A row read from a store: values under the names of their columns. Columns are found by name without
regard to the case of ASCII letters, the first that matches first.
-/

namespace Tablewright

/-- A row of a result. -/
structure Row where
  columns : List String
  values : List Value
  deriving DecidableEq

namespace Row

variable (r : Row)

/-- The number of values. -/
def length : Nat := r.values.length

/-- The position of a column. -/
def position? (name : String) : Option Nat :=
  r.columns.findIdx? (Text.eqIgnoreAsciiCase · name)

/-- The name of a column, or its position where it has none. -/
def columnName (index : Nat) : String :=
  r.columns[index]?.getD ("#" ++ Text.numeral index)

/-- The data in the column at a position. -/
def readAt (s : Scalar) (index : Nat) : Except Fault s.Data :=
  match r.values[index]? with
  | none => .error (.decode (r.columnName index) "index out of range")
  | some value => (s.read value).mapError fun e => .decode (r.columnName index) e.message

/-- The data in the column with a name. -/
def read (s : Scalar) (name : String) : Except Fault s.Data :=
  match r.position? name with
  | none => .error (.decode name "no such column")
  | some index => r.readAt s index

/-- The value in the column with a name, whatever it is. -/
def readValue (name : String) : Except Fault Value :=
  match r.position? name with
  | none => .error (.decode name "no such column")
  | some index =>
    match r.values[index]? with
    | none => .error (.decode (r.columnName index) "index out of range")
    | some value => .ok value

end Row

end Tablewright
