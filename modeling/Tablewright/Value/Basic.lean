import Tablewright.Number.Decimal
import Tablewright.Number.Shortest
import Tablewright.Value.Calendar
import Tablewright.Value.Uuid

/-!
# Values

The values that travel between a program and its store. Two values are compared by `Value.equals`:
numbers by what they stand for within one kind, everything else literally. `Value.logText` is the
short text of a value in a log.
-/

namespace Tablewright

/-- A value of a column or a parameter. -/
inductive Value where
  | null
  | bool (b : Bool)
  | int16 (n : Int16)
  | int32 (n : Int32)
  | int64 (n : Int64)
  | float32 (x : Single)
  | float64 (x : Double)
  | decimal (d : Decimal)
  | text (s : String)
  | bytes (b : List UInt8)
  | uuid (u : Uuid)
  | date (d : Date)
  | time (t : TimeOfDay)
  | dateTime (d : DateTime)
  | dateTimeUtc (d : DateTime)
  deriving DecidableEq

namespace Value

instance : Inhabited Value := ⟨null⟩

/-- Whether the value is absent. -/
def isNull : Value → Bool
  | null => true
  | _ => false

/-- The name of the value's kind. -/
def kind : Value → String
  | null => "NULL"
  | bool _ => "bool"
  | int16 _ => "i16"
  | int32 _ => "i32"
  | int64 _ => "i64"
  | float32 _ => "f32"
  | float64 _ => "f64"
  | decimal _ => "decimal"
  | text _ => "text"
  | bytes _ => "bytes"
  | uuid _ => "uuid"
  | date _ => "date"
  | time _ => "time"
  | dateTime _ => "datetime"
  | dateTimeUtc _ => "datetime with time zone"

/-- Equality of values of one kind: numbers that are none differ from themselves, the two zeros are
equal, and the places of a decimal number do not count. -/
def equals : Value → Value → Bool
  | float32 a, float32 b => a.value.equals b.value
  | float64 a, float64 b => a.value.equals b.value
  | decimal a, decimal b => a.equals b
  | a, b => a == b

/-- The integer that a value of one of the integer kinds holds. -/
def toInt? : Value → Option Int
  | int16 n => some n.toInt
  | int32 n => some n.toInt
  | int64 n => some n.toInt
  | _ => none

/-- The text of a truth value. -/
def boolText (b : Bool) : String :=
  if b then "true" else "false"

/-- The greatest number of characters of a text in a log. -/
def logLimit : Nat := 64

/-- The text of a value in a log. Long texts are cut, binary values only counted. -/
def logText : Value → String
  | null => "NULL"
  | bool b => boolText b
  | int16 n => Text.signedNumeral n.toInt
  | int32 n => Text.signedNumeral n.toInt
  | int64 n => Text.signedNumeral n.toInt
  | float32 x => x.text
  | float64 x => x.text
  | decimal d => d.text
  | text s =>
    if logLimit < s.length then String.ofList (s.toList.take logLimit) ++ ".." else s
  | bytes b => "<" ++ Text.numeral b.length ++ " bytes>"
  | uuid u => u.text
  | date d => d.text
  | time t => t.text
  | dateTime d => d.textWith " "
  | dateTimeUtc d => d.textWith "T" ++ "+00:00"

end Value

end Tablewright
