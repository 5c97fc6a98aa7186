import Tablewright.Dialect

/-!
# Column types

The types that a column may have in each dialect, with the family of values each of them holds and
the length, precision or scale it takes. `ColumnType.render` writes a type as it stands in a table's
definition.
-/

namespace Tablewright

/-- A declared length of texts or binary values. -/
inductive ColumnSize where
  | length (n : Nat)
  | max
  deriving DecidableEq, Repr

/-- What kind of values a type holds. -/
inductive TypeFamily where
  | boolean
  | integer
  | float
  | decimal
  | text
  | binary
  | temporal
  | uuid
  deriving DecidableEq, Repr

/-- The name of a family. -/
def TypeFamily.name : TypeFamily → String
  | boolean => "Boolean"
  | integer => "Integer"
  | float => "Float"
  | decimal => "Decimal"
  | text => "Text"
  | binary => "Binary"
  | temporal => "Temporal"
  | uuid => "Uuid"

/-- The column types of SQL Server. -/
inductive SqlServerType where
  | bit | tinyInt | smallInt | int | bigInt | real | float | decimal | numeric | char | varChar
  | nChar | nVarChar | binary | varBinary | date | time | dateTime2 | dateTimeOffset
  | uniqueIdentifier
  deriving DecidableEq, Repr

/-- The column types of PostgreSQL. -/
inductive PostgresType where
  | boolean | smallInt | integer | bigInt | real | doublePrecision | numeric | char | varChar | text
  | bytea | date | time | timestamp | timestampTz | uuid
  deriving DecidableEq, Repr

namespace SqlServerType

/-- All types, in the order of their output. -/
def all : List SqlServerType :=
  [bit, tinyInt, smallInt, int, bigInt, real, float, decimal, numeric, char, varChar, nChar,
    nVarChar, binary, varBinary, date, time, dateTime2, dateTimeOffset, uniqueIdentifier]

/-- The name of the type in a profile. -/
def variantName : SqlServerType → String
  | bit => "Bit"
  | tinyInt => "TinyInt"
  | smallInt => "SmallInt"
  | int => "Int"
  | bigInt => "BigInt"
  | real => "Real"
  | float => "Float"
  | decimal => "Decimal"
  | numeric => "Numeric"
  | char => "Char"
  | varChar => "VarChar"
  | nChar => "NChar"
  | nVarChar => "NVarChar"
  | binary => "Binary"
  | varBinary => "VarBinary"
  | date => "Date"
  | time => "Time"
  | dateTime2 => "DateTime2"
  | dateTimeOffset => "DateTimeOffset"
  | uniqueIdentifier => "UniqueIdentifier"

/-- The name of the type in a statement. -/
def keyword (t : SqlServerType) : String :=
  String.ofList (t.variantName.toList.map Char.toUpper)

/-- The values that the type holds. -/
def family : SqlServerType → TypeFamily
  | bit => .boolean
  | tinyInt | smallInt | int | bigInt => .integer
  | real | float => .float
  | decimal | numeric => .decimal
  | char | varChar | nChar | nVarChar => .text
  | binary | varBinary => .binary
  | date | time | dateTime2 | dateTimeOffset => .temporal
  | uniqueIdentifier => .uuid

/-- Whether a column of the type declares a length. -/
def takesSize : SqlServerType → Bool
  | char | varChar | nChar | nVarChar | binary | varBinary => true
  | _ => false

end SqlServerType

namespace PostgresType

/-- All types, in the order of their output. -/
def all : List PostgresType :=
  [boolean, smallInt, integer, bigInt, real, doublePrecision, numeric, char, varChar, text, bytea,
    date, time, timestamp, timestampTz, uuid]

/-- The name of the type in a profile. -/
def variantName : PostgresType → String
  | boolean => "Boolean"
  | smallInt => "SmallInt"
  | integer => "Integer"
  | bigInt => "BigInt"
  | real => "Real"
  | doublePrecision => "DoublePrecision"
  | numeric => "Numeric"
  | char => "Char"
  | varChar => "VarChar"
  | text => "Text"
  | bytea => "Bytea"
  | date => "Date"
  | time => "Time"
  | timestamp => "Timestamp"
  | timestampTz => "TimestampTz"
  | uuid => "Uuid"

/-- The name of the type in a statement. -/
def keyword : PostgresType → String
  | doublePrecision => "DOUBLE PRECISION"
  | t => String.ofList (t.variantName.toList.map Char.toUpper)

/-- The values that the type holds. -/
def family : PostgresType → TypeFamily
  | boolean => .boolean
  | smallInt | integer | bigInt => .integer
  | real | doublePrecision => .float
  | numeric => .decimal
  | char | varChar | text => .text
  | bytea => .binary
  | date | time | timestamp | timestampTz => .temporal
  | uuid => .uuid

/-- Whether a column of the type declares a length. -/
def takesSize : PostgresType → Bool
  | char | varChar => true
  | _ => false

end PostgresType

/-- A column type of one of the dialects. -/
inductive ColumnType where
  | sqlServer (t : SqlServerType)
  | postgres (t : PostgresType)
  deriving DecidableEq, Repr

namespace ColumnType

/-- All types of a dialect. -/
def all : Dialect → List ColumnType
  | .sqlServer => SqlServerType.all.map sqlServer
  | .postgres => PostgresType.all.map postgres

/-- The dialect of the type. -/
def dialect : ColumnType → Dialect
  | sqlServer _ => .sqlServer
  | postgres _ => .postgres

/-- The values that the type holds. -/
def family : ColumnType → TypeFamily
  | sqlServer t => t.family
  | postgres t => t.family

/-- The name under which a profile finds the types of a dialect. -/
def enumName : Dialect → String
  | .sqlServer => "SqlServerType"
  | .postgres => "PostgresType"

/-- The name of the type among those of its dialect. -/
def variantName : ColumnType → String
  | sqlServer t => t.variantName
  | postgres t => t.variantName

/-- The full name of the type. -/
def path (t : ColumnType) : String :=
  enumName t.dialect ++ "::" ++ t.variantName

/-- The type with a name among those of a dialect. -/
def ofVariantName? (d : Dialect) (variant : String) : Option ColumnType :=
  (all d).find? (·.variantName == variant)

/-- The dialect whose types go by a name. -/
def dialectOfEnum? (enum : String) : Option Dialect :=
  Dialect.all.find? (enumName · == enum)

/-- The type with a full name. -/
def ofPath? (enum variant : String) : Option ColumnType :=
  (dialectOfEnum? enum).bind (ofVariantName? · variant)

/-- The name of the type in a statement. -/
def keyword : ColumnType → String
  | sqlServer t => t.keyword
  | postgres t => t.keyword

/-- Whether a column of the type declares a length. -/
def takesSize : ColumnType → Bool
  | sqlServer t => t.takesSize
  | postgres t => t.takesSize

/-- Whether a column of the type declares precision and scale. -/
def takesPrecision (t : ColumnType) : Bool :=
  t.family == .decimal

/-- The type in a table's definition. Only the settings that the type takes are written. -/
def render (t : ColumnType) (size : Option ColumnSize) (precision scale : Option Nat) : String :=
  if t.takesSize then
    match t, size with
    | _, some (.length n) => t.keyword ++ "(" ++ Text.numeral n ++ ")"
    | sqlServer _, some .max => t.keyword ++ "(MAX)"
    | _, _ => t.keyword
  else if t.takesPrecision then
    match precision, scale with
    | some p, some s => t.keyword ++ "(" ++ Text.numeral p ++ "," ++ Text.numeral s ++ ")"
    | some p, none => t.keyword ++ "(" ++ Text.numeral p ++ ")"
    | none, _ => t.keyword
  else t.keyword

end ColumnType

end Tablewright
