import Tablewright.ColumnType

/-!
# Tables

A table in one dialect: its columns, each standing for a property of a model, its key and the columns
whose values the store assigns. The lists of columns below are what the statements on the table
write, match and read.
-/

namespace Tablewright

/-- A column and the property that it stands for. -/
structure Column where
  property : String
  name : String
  type : ColumnType
  size : Option ColumnSize
  precision : Option Nat
  scale : Option Nat
  nullable : Bool
  /-- An expression for rows that give no value. -/
  default : Option String
  deriving DecidableEq, Repr

namespace Column

/-- A column named like its property, with no settings. -/
def ofProperty (property : String) (type : ColumnType) : Column :=
  { property, name := property, type, size := none, precision := none, scale := none
    nullable := false, default := none }

/-- The type as it stands in the table's definition. -/
def typeText (c : Column) : String :=
  c.type.render c.size c.precision c.scale

/-- A parameter's name for a column: every character but ASCII letters, digits and underscores
becomes an underscore. -/
def parameterNameOf (column : String) : String :=
  String.ofList (column.toList.map fun c => if Text.isAsciiWord c then c else '_')

/-- The name of the column's parameter. -/
def parameterName (c : Column) : String :=
  parameterNameOf c.name

end Column

/-- A table. -/
structure Table where
  dialect : Dialect
  schema : String
  name : String
  columns : List Column
  /-- The properties of the key, in order. -/
  keys : List String
  /-- The properties whose values the store assigns. -/
  identity : List String
  deriving DecidableEq, Repr

namespace Table

variable (t : Table)

/-- The quoted name of the table. -/
def qualifiedName : String :=
  t.dialect.qualified t.schema t.name

/-- Whether a property belongs to the key. -/
def isKey (property : String) : Bool :=
  t.keys.contains property

/-- Whether the store assigns a property. -/
def isIdentity (property : String) : Bool :=
  t.identity.contains property

/-- The column of a property. -/
def column? (property : String) : Option Column :=
  t.columns.find? (·.property == property)

/-- The columns that an insert writes: all that the store does not assign. -/
def insertColumns : List Column :=
  t.columns.filter fun c => !t.isIdentity c.property

/-- The columns that an update writes: neither the key nor assigned by the store. -/
def updateColumns : List Column :=
  t.columns.filter fun c => !t.isKey c.property && !t.isIdentity c.property

/-- The columns of the key, in its order. -/
def keyColumns : List Column :=
  t.keys.filterMap t.column?

/-- The columns of the key by which an upsert finds a row. -/
def upsertKeys : List Column :=
  t.keyColumns.filter fun c => !t.isIdentity c.property

/-- The default of an identifier key named `id` that declares none. -/
def implicitDefault (c : Column) : Option String :=
  if Text.eqIgnoreAsciiCase c.property "id" && c.type.family == .uuid && t.isKey c.property &&
      !t.isIdentity c.property then
    some t.dialect.uuidDefault
  else none

end Table

end Tablewright
