import Tablewright.Table.Basic
import Tablewright.Value.Basic

/-!
# Parameters

A parameter of a statement: a name, a column type with its settings, and the value bound to it.
-/

namespace Tablewright

/-- A parameter without a value. -/
structure ParameterSpec where
  name : String
  type : ColumnType
  size : Option ColumnSize := none
  precision : Option Nat := none
  scale : Option Nat := none
  deriving DecidableEq, Repr

/-- A parameter with its value. -/
structure Parameter extends ParameterSpec where
  value : Value
  deriving DecidableEq

/-- The parameter with a value. -/
def ParameterSpec.bind (p : ParameterSpec) (value : Value) : Parameter :=
  { p with value }

/-- The same parameter under another name. -/
def Parameter.renamed (p : Parameter) (name : String) : Parameter :=
  { p with name }

/-- The parameter of a column. -/
def Column.parameter (c : Column) : ParameterSpec where
  name := c.parameterName
  type := c.type
  size := c.size
  precision := c.precision
  scale := c.scale

end Tablewright
