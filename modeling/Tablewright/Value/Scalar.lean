import Tablewright.Number.Power
import Tablewright.Value.Basic

/-!
# Scalars

The types that a property may have in a program, each with the data it holds. `Scalar.write` turns
such data into a value for a column and `Scalar.read` gets data out of a value. Writing may widen an
integer; reading checks its range.
-/

namespace Tablewright

/-- An integer type of a program. -/
inductive IntType where
  | i8 | u8 | i16 | u16 | i32 | u32 | i64 | u64
  deriving DecidableEq, Repr

namespace IntType

/-- All of them. -/
def all : List IntType := [i8, u8, i16, u16, i32, u32, i64, u64]

/-- The name of the type. -/
def name : IntType → String
  | i8 => "i8"
  | u8 => "u8"
  | i16 => "i16"
  | u16 => "u16"
  | i32 => "i32"
  | u32 => "u32"
  | i64 => "i64"
  | u64 => "u64"

/-- The number of bits. -/
def width : IntType → Nat
  | i8 | u8 => 8
  | i16 | u16 => 16
  | i32 | u32 => 32
  | i64 | u64 => 64

/-- Whether the type has negative numbers. -/
def signed : IntType → Bool
  | i8 | i16 | i32 | i64 => true
  | u8 | u16 | u32 | u64 => false

/-- The least number. -/
def low (t : IntType) : Int :=
  if t.signed then -twoTo (t.width - 1) else 0

/-- The greatest number. -/
def high (t : IntType) : Int :=
  if t.signed then twoTo (t.width - 1) - 1 else twoTo t.width - 1

/-- The numbers of the type. -/
def Range (t : IntType) : Type :=
  { n : Int // t.low ≤ n ∧ n ≤ t.high }

instance (t : IntType) : DecidableEq t.Range :=
  inferInstanceAs (DecidableEq { n : Int // t.low ≤ n ∧ n ≤ t.high })

/-- The number as one of the type, if it is in its range. -/
def ofInt? (t : IntType) (n : Int) : Option t.Range :=
  if h : t.low ≤ n ∧ n ≤ t.high then some ⟨n, h⟩ else none

/-- The value of a number: the narrowest integer kind that holds all numbers of the type. The
greatest type is wider than any kind and is only read. -/
def toValue (t : IntType) (n : Int) : Value :=
  match t with
  | i8 | u8 | i16 => .int16 (Int16.ofInt n)
  | u16 | i32 => .int32 (Int32.ofInt n)
  | u32 | i64 | u64 => .int64 (Int64.ofInt n)

end IntType

/-- A type of a property. -/
inductive Scalar where
  | bool
  | int (t : IntType)
  | float32
  | float64
  | decimal
  | text
  | bytes
  | uuid
  | date
  | time
  | dateTime
  | dateTimeUtc
  | optional (s : Scalar)
  deriving DecidableEq, Repr

namespace Scalar

/-- The data of a type. -/
def Data : Scalar → Type
  | bool => Bool
  | int t => t.Range
  | float32 => Single
  | float64 => Double
  | decimal => Decimal
  | text => String
  | bytes => List UInt8
  | uuid => Uuid
  | date => Date
  | time => TimeOfDay
  | dateTime => DateTime
  | dateTimeUtc => DateTime
  | optional s => Option s.Data

/-- The value of data. -/
def write : (s : Scalar) → s.Data → Value
  | bool, b => .bool b
  | int t, n => t.toValue n.1
  | float32, x => .float32 x
  | float64, x => .float64 x
  | decimal, d => .decimal d
  | text, s => .text s
  | bytes, b => .bytes b
  | uuid, u => .uuid u
  | date, d => .date d
  | time, t => .time t
  | dateTime, d => .dateTime d
  | dateTimeUtc, d => .dateTimeUtc d
  | optional _, none => .null
  | optional s, some x => s.write x

/-- The name of the type in messages. -/
def name : Scalar → String
  | bool => "bool"
  | int t => t.name
  | float32 => "f32"
  | float64 => "f64"
  | decimal => "decimal"
  | text => "String"
  | bytes => "Vec<u8>"
  | uuid => "Uuid"
  | date => "NaiveDate"
  | time => "NaiveTime"
  | dateTime => "NaiveDateTime"
  | dateTimeUtc => "DateTime<Utc>"
  | optional s => s.name

/-- Why a value holds no data of a type. -/
inductive ReadError where
  | kind (expected : Scalar) (found : Value)
  | range (n : Int) (t : IntType)
  deriving DecidableEq

/-- The text of the error. -/
def ReadError.message : ReadError → String
  | kind expected found => "expected " ++ expected.name ++ ", found " ++ found.kind
  | range n t => Text.signedNumeral n ++ " out of range for " ++ t.name

/-- An integer as data of a type. -/
def readInt (t : IntType) (n : Int) : Except ReadError t.Range :=
  match t.ofInt? n with
  | some x => .ok x
  | none => .error (.range n t)

/-- The data of a value. Integers are read at any width, and in place of the truth values 0 and 1 and
back; numbers with a fraction are read from narrower kinds. -/
def read : (s : Scalar) → Value → Except ReadError s.Data
  | int t, .int16 n => readInt t n.toInt
  | int t, .int32 n => readInt t n.toInt
  | int t, .int64 n => readInt t n.toInt
  | int t, .bool b => readInt t (if b then 1 else 0)
  | bool, .bool b => .ok b
  | bool, .int16 n => .ok (n != 0)
  | bool, .int32 n => .ok (n != 0)
  | float32, .float32 x => .ok x
  | float32, .float64 x => .ok x.toSingle
  | float64, .float64 x => .ok x
  | float64, .float32 x => .ok x.toDouble
  | float64, .int32 n => .ok (Double.ofInt n.toInt)
  | decimal, .decimal d => .ok d
  | decimal, .int16 n => .ok (Decimal.ofInt64 n.toInt64)
  | decimal, .int32 n => .ok (Decimal.ofInt64 n.toInt64)
  | decimal, .int64 n => .ok (Decimal.ofInt64 n)
  | text, .text s => .ok s
  | bytes, .bytes b => .ok b
  | uuid, .uuid u => .ok u
  | date, .date d => .ok d
  | time, .time t => .ok t
  | dateTime, .dateTime d => .ok d
  | dateTimeUtc, .dateTimeUtc d => .ok d
  | optional _, .null => .ok none
  | optional s, v => (s.read v).map some
  | s, v => .error (.kind s v)

end Scalar

end Tablewright
