import Tablewright.Number.FloatText
import Tablewright.Number.Power
import Tablewright.Postgres.ServerType
import Tablewright.Text.Hex
import Tablewright.Value.Basic
import Tablewright.Value.CalendarText

/-!
# Cells

A server sends a cell as text or in a binary form. Both are read here; what cannot be read is none.
-/

namespace Tablewright.Postgres

/-- The day from which a server counts days, counted from 1970-01-01. -/
def serverEpoch : Int := 10957

/-! ## Text -/

/-- An integer of some bits. -/
def readInt? (bits : Nat) (s : List Char) : Option Int :=
  Text.readInt? (-twoTo (bits - 1)) (twoTo (bits - 1) - 1) s

/-- Bytes as hexadecimal digits behind `\x`. -/
def readBytes? (s : List Char) : Option (List UInt8) :=
  match s with
  | '\\' :: 'x' :: digits => Text.hexBytes? digits
  | _ => none

/-- The value of a cell that was sent as text. -/
def readText? (kind : CellKind) (cell : String) : Option Value :=
  let s := cell.toList
  match kind with
  | .bool => if cell = "t" then some (.bool true) else if cell = "f" then some (.bool false) else none
  | .int2 => (readInt? 16 s).map fun n => .int16 (Int16.ofInt n)
  | .int4 => (readInt? 32 s).map fun n => .int32 (Int32.ofInt n)
  | .int8 => (readInt? 64 s).map fun n => .int64 (Int64.ofInt n)
  | .float4 => (Single.read? s).map .float32
  | .float8 => (Double.read? s).map .float64
  | .numeric => (Decimal.read? s).map .decimal
  | .text => some (.text cell)
  | .bytea => (readBytes? s).map .bytes
  | .uuid => (Uuid.read? s).map .uuid
  | .date => (Date.read? s).map .date
  | .time => (TimeOfDay.read? s).map .time
  | .timestamp => (DateTime.read? s).map .dateTime
  | .timestampTz => (DateTime.readUtc? s).map .dateTimeUtc

/-! ## Binary forms -/

/-- The natural number of bytes, the highest first. -/
def natOfBytes (bytes : List UInt8) : Nat :=
  bytes.foldl (fun n b => n * 256 + b.toNat) 0

/-- The integer of one to eight bytes in two's complement. -/
def intOfBytes? (bytes : List UInt8) : Option Int :=
  if 0 < bytes.length ∧ bytes.length ≤ 8 then
    some ((natOfBytes bytes : Int).bmod (twoTo (8 * bytes.length)))
  else none

/-- The integer of bytes, if some bits hold it. -/
def intWithin? (bits : Nat) (bytes : List UInt8) : Option Int :=
  (intOfBytes? bytes).filter fun n => -twoTo (bits - 1) ≤ n ∧ n < twoTo (bits - 1)

/-- The number of four digits in base 10000 that two bytes hold, as an integer. -/
def wordAt (bytes : List UInt8) (index : Nat) : Int :=
  (natOfBytes ((bytes.drop (2 * index)).take 2) : Int).bmod 65536

/-- The decimal number nearest to `digits * 10 ^ exponent` with so many places, a half going up. -/
def decimalWith? (negative : Bool) (digits : Nat) (exponent : Int) (places : Nat) : Option Decimal :=
  match exponent + places with
  | .ofNat e => Decimal.ofParts? negative (digits * tenTo e) places
  | .negSucc e => Decimal.ofParts? negative ((digits + 5 * tenTo e) / tenTo (e + 1)) places

/-- A decimal number: how many digits in base 10000 it has, the place of the first, its sign, the number
of decimal places and the digits. Of the places as many are kept as fit. -/
def readNumeric? (bytes : List UInt8) : Option Decimal := do
  let count := (wordAt bytes 0).toNat
  let weight := wordAt bytes 1
  let sign := wordAt bytes 2
  let places := wordAt bytes 3
  if bytes.length < 8 + 2 * count ∨ (sign ≠ 0 ∧ sign ≠ 0x4000) ∨ places < 0 then none
  if count = 0 then return .zero
  let digits := (List.range count).foldl (fun n i => n * 10000 + (wordAt bytes (4 + i)).toNat) 0
  let exponent := 4 * (weight - count + 1)
  (List.range (min places.toNat 28 + 1)).reverse.findSome? (decimalWith? (sign != 0) digits exponent)

/-- The value of a cell that was sent in its binary form. -/
def readBinary? (kind : CellKind) (cell : List UInt8) : Option Value :=
  match kind with
  | .bool => cell.head?.map fun b => .bool (b != 0)
  | .int2 => (intWithin? 16 cell).map fun n => .int16 (Int16.ofInt n)
  | .int4 => (intWithin? 32 cell).map fun n => .int32 (Int32.ofInt n)
  | .int8 => (intWithin? 64 cell).map fun n => .int64 (Int64.ofInt n)
  | .float4 => if cell.length < 4 then none else some (.float32 ⟨UInt32.ofNat (natOfBytes (cell.take 4))⟩)
  | .float8 => if cell.length < 8 then none else some (.float64 ⟨UInt64.ofNat (natOfBytes (cell.take 8))⟩)
  | .numeric => (readNumeric? cell).map .decimal
  | .text => (Text.ofUtf8? cell).map .text
  | .bytea => some (.bytes cell)
  | .uuid => if cell.length = 16 then some (.uuid ⟨BitVec.ofNat 128 (natOfBytes cell)⟩) else none
  | .date => do
    let days ← intWithin? 32 cell
    return .date (← Date.ofDays? (serverEpoch + days))
  | .time => do
    let microseconds ← intWithin? 64 cell
    return .time (← DateTime.ofMicroseconds? 0 (microseconds % 86400000000)).time
  | .timestamp => do
    return .dateTime (← DateTime.ofMicroseconds? serverEpoch (← intWithin? 64 cell))
  | .timestampTz => do
    return .dateTimeUtc (← DateTime.ofMicroseconds? serverEpoch (← intWithin? 64 cell))

end Tablewright.Postgres
