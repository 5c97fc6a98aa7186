import Tablewright.Text.Numeral

/-!
# Types of a PostgreSQL server

A server names the type of a column by a number. The types below are built in; each has a name and most
have a list of it as a type of its own.
-/

namespace Tablewright.Postgres

/-- A built-in type: its number, the number of the type of its lists, and its name. -/
structure BuiltInType where
  number : Nat
  listNumber : Option Nat
  name : String
  deriving DecidableEq, Repr

/-- The built-in types. -/
def builtInTypes : List BuiltInType :=
  [ ⟨16, some 1000, "BOOL"⟩, ⟨17, some 1001, "BYTEA"⟩, ⟨18, some 1002, "\"CHAR\""⟩,
    ⟨19, some 1003, "NAME"⟩, ⟨20, some 1016, "INT8"⟩, ⟨21, some 1005, "INT2"⟩,
    ⟨23, some 1007, "INT4"⟩, ⟨25, some 1009, "TEXT"⟩, ⟨26, some 1028, "OID"⟩,
    ⟨114, some 199, "JSON"⟩, ⟨600, some 1017, "POINT"⟩, ⟨601, some 1018, "LSEG"⟩,
    ⟨602, some 1019, "PATH"⟩, ⟨603, some 1020, "BOX"⟩, ⟨604, some 1027, "POLYGON"⟩,
    ⟨628, some 629, "LINE"⟩, ⟨650, some 651, "CIDR"⟩, ⟨700, some 1021, "FLOAT4"⟩,
    ⟨701, some 1022, "FLOAT8"⟩, ⟨705, none, "UNKNOWN"⟩, ⟨718, some 719, "CIRCLE"⟩,
    ⟨774, some 775, "MACADDR8"⟩, ⟨790, some 791, "MONEY"⟩, ⟨829, some 1040, "MACADDR"⟩,
    ⟨869, some 1041, "INET"⟩, ⟨1042, some 1014, "CHAR"⟩, ⟨1043, some 1015, "VARCHAR"⟩,
    ⟨1082, some 1182, "DATE"⟩, ⟨1083, some 1183, "TIME"⟩, ⟨1114, some 1115, "TIMESTAMP"⟩,
    ⟨1184, some 1185, "TIMESTAMPTZ"⟩, ⟨1186, some 1187, "INTERVAL"⟩, ⟨1266, some 1270, "TIMETZ"⟩,
    ⟨1560, some 1561, "BIT"⟩, ⟨1562, some 1563, "VARBIT"⟩, ⟨1700, some 1231, "NUMERIC"⟩,
    ⟨2249, some 2287, "RECORD"⟩, ⟨2278, none, "VOID"⟩, ⟨2950, some 2951, "UUID"⟩,
    ⟨3802, some 3807, "JSONB"⟩, ⟨3904, some 3905, "INT4RANGE"⟩, ⟨3906, some 3907, "NUMRANGE"⟩,
    ⟨3908, some 3909, "TSRANGE"⟩, ⟨3910, some 3911, "TSTZRANGE"⟩, ⟨3912, some 3913, "DATERANGE"⟩,
    ⟨3926, some 3927, "INT8RANGE"⟩, ⟨4072, some 4073, "JSONPATH"⟩ ]

/-- The name of a type; that of a list ends in brackets. -/
def typeName (number : Nat) : String :=
  match builtInTypes.find? fun t => t.number == number with
  | some t => t.name
  | none =>
    match builtInTypes.find? fun t => t.listNumber == some number with
    | some t => t.name ++ "[]"
    | none => Text.numeral number

/-- The kinds of columns that can be read. -/
inductive CellKind where
  | bool | int2 | int4 | int8 | float4 | float8 | numeric | text | bytea | uuid | date | time
  | timestamp | timestampTz
  deriving DecidableEq, Repr

/-- The kind of a type, if columns of it can be read. -/
def CellKind.ofTypeName? (name : String) : Option CellKind :=
  [ ("BOOL", bool), ("INT2", int2), ("INT4", int4), ("INT8", int8), ("FLOAT4", float4),
    ("FLOAT8", float8), ("NUMERIC", numeric), ("TEXT", text), ("VARCHAR", text), ("BPCHAR", text),
    ("NAME", text), ("CHAR", text), ("BYTEA", bytea), ("UUID", uuid), ("DATE", date), ("TIME", time),
    ("TIMESTAMP", timestamp), ("TIMESTAMPTZ", timestampTz) ].lookup name

/-- The number of the type of the kind. -/
def CellKind.typeNumber : CellKind → Nat
  | bool => 16
  | bytea => 17
  | int8 => 20
  | int2 => 21
  | int4 => 23
  | text => 25
  | float4 => 700
  | float8 => 701
  | date => 1082
  | time => 1083
  | timestamp => 1114
  | timestampTz => 1184
  | numeric => 1700
  | uuid => 2950

end Tablewright.Postgres
