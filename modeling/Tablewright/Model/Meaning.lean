import Tablewright.Model.Basic

/-!
# What the type of a property means

The types that a property can have, the family of values of each, and the column type that stands for
it where a profile names none. Texts, binary values and decimals have no such type: their length or
precision is for the profile to say.
-/

namespace Tablewright

/-- The integers that a column can hold. -/
inductive IntWidth where
  | i8 | i16 | i32 | i64 | u8 | u16 | u32
  deriving DecidableEq, Repr

namespace IntWidth

/-- All of them. -/
def all : List IntWidth := [i8, i16, i32, i64, u8, u16, u32]

/-- The name of the type. -/
def name : IntWidth → String
  | i8 => "i8"
  | i16 => "i16"
  | i32 => "i32"
  | i64 => "i64"
  | u8 => "u8"
  | u16 => "u16"
  | u32 => "u32"

/-- The type of a name. -/
def ofName? (name : String) : Option IntWidth :=
  all.find? (·.name == name)

/-- The smallest column type that holds all its values. -/
def columnType (w : IntWidth) : Dialect → ColumnType
  | .sqlServer => .sqlServer (match w with
    | u8 => .tinyInt
    | i8 | i16 => .smallInt
    | u16 | i32 => .int
    | u32 | i64 => .bigInt)
  | .postgres => .postgres (match w with
    | i8 | u8 | i16 => .smallInt
    | u16 | i32 => .integer
    | u32 | i64 => .bigInt)

end IntWidth

/-- An enum that is stored as an integer. -/
structure EnumRef where
  name : String
  path : String
  representation : IntWidth
  variants : List String
  deriving DecidableEq, Repr

/-- What the type of a property means. -/
inductive Meaning where
  | bool
  | int (width : IntWidth)
  | f32
  | f64
  | decimal
  | text
  | bytes
  | date
  | time
  | dateTime
  | dateTimeUtc
  | uuid
  | enum (e : EnumRef)
  deriving DecidableEq, Repr

/-- Why a type cannot be that of a property. -/
inductive UnsupportedType where
  | unknown (type : String)
  | list (type : String)
  | zonedTime (type : String)
  | tooWide (name : String)
  deriving DecidableEq, Repr

/-- The text of the reason. -/
def UnsupportedType.message : UnsupportedType → String
  | unknown type => "`" ++ type ++ "` is not a supported property type"
  | list type => "`" ++ type ++ "` is not supported; only `Vec<u8>` maps to a column"
  | zonedTime type => "`" ++ type ++ "` is not supported; use `DateTime<Utc>`"
  | tooWide name => "`" ++ name ++ "` has no lossless column type"

namespace Meaning

/-- The name of the kind of values. -/
def kindName : Meaning → String
  | bool => "Bool"
  | int _ => "Int"
  | f32 => "F32"
  | f64 => "F64"
  | decimal => "Decimal"
  | text => "String"
  | bytes => "Bytes"
  | date => "Date"
  | time => "Time"
  | dateTime => "DateTime"
  | dateTimeUtc => "DateTimeUtc"
  | uuid => "Uuid"
  | enum _ => "Enum"

/-- Whether only a profile can say what the column looks like. -/
def isAmbiguous : Meaning → Bool
  | decimal | text | bytes => true
  | _ => false

/-- The values that a property holds. -/
def family : Meaning → TypeFamily
  | bool => .boolean
  | int _ | enum _ => .integer
  | f32 | f64 => .float
  | decimal => .decimal
  | text => .text
  | bytes => .binary
  | date | time | dateTime | dateTimeUtc => .temporal
  | uuid => .uuid

/-- The column type where a profile names none. -/
def defaultType? (m : Meaning) (d : Dialect) : Option ColumnType :=
  let both (s : SqlServerType) (p : PostgresType) : Option ColumnType :=
    match d with
    | .sqlServer => some (.sqlServer s)
    | .postgres => some (.postgres p)
  match m with
  | int w => some (w.columnType d)
  | enum e => some (e.representation.columnType d)
  | decimal | text | bytes => none
  | bool => both .bit .boolean
  | f32 => both .real .real
  | f64 => both .float .doublePrecision
  | date => both .date .date
  | time => both .time .time
  | dateTime => both .dateTime2 .timestamp
  | dateTimeUtc => both .dateTimeOffset .timestampTz
  | uuid => both .uniqueIdentifier .uuid

/-- The meaning of an enum's name: the first enum so called, if it can be stored. -/
def ofEnum? (enums : List EnumModel) (name : String) : Option Meaning := do
  let e ← enums.find? (·.name == name)
  if !e.unitOnly || e.variants.isEmpty then none
  let representation ← match e.representation with
    | none => some .i32
    | some r => IntWidth.ofName? r
  return enum ⟨e.name, e.path, representation, e.variants⟩

/-- The last name of a type's path, and its only argument if that is a type. -/
def lastSegment? : Source.TypeExpr → Option (String × Option Source.TypeExpr)
  | .path _ false names arguments =>
    names.getLast?.map fun name => (name, match arguments with
      | some [only] => only
      | _ => none)
  | .path _ true _ _ => none
  | .paren _ inner => lastSegment? inner
  | .other _ => none

/-- The last name of the only argument of a path. -/
def argumentName? (argument : Option Source.TypeExpr) : Option String :=
  (argument.bind lastSegment?).map (·.1)

/-- The types with names of their own. -/
def named : List (String × Meaning) :=
  [("bool", bool), ("f32", f32), ("f64", f64), ("Decimal", decimal), ("String", text),
    ("NaiveDate", date), ("NaiveTime", time), ("NaiveDateTime", dateTime), ("Uuid", uuid)]

/-- Integers that no column can hold. -/
def wideIntegers : List String := ["u64", "usize", "isize", "i128", "u128"]

/-- The meaning of a type that is no `Option`. -/
def ofType (enums : List EnumModel) (type : Source.TypeExpr) : Except UnsupportedType Meaning :=
  match lastSegment? type with
  | none => .error (.unknown type.text)
  | some (name, argument) =>
    match IntWidth.ofName? name, named.lookup name with
    | some w, _ => .ok (int w)
    | none, some m => .ok m
    | none, none =>
      if name == "Vec" then
        if argumentName? argument = some "u8" then .ok bytes else .error (.list type.text)
      else if name == "DateTime" then
        if argumentName? argument = some "Utc" then .ok dateTimeUtc
        else .error (.zonedTime type.text)
      else if wideIntegers.contains name then .error (.tooWide name)
      else
        match ofEnum? enums name with
        | some m => .ok m
        | none => .error (.unknown type.text)

end Meaning

end Tablewright
