import Tablewright.Store.Entity

/-!
# Entities of a table

The entity of a table whose items are seen as values in the order of its columns, and its simplest
case: the items are these values themselves.
-/

namespace Tablewright

namespace Table

variable (t : Table)

/-- The value that stands for a column among the values of an item. Of columns with one property the
first counts. -/
def valueOf (values : List Value) (c : Column) : Value :=
  match t.columns.findIdx? (·.property == c.property) with
  | some i => values[i]?.getD .null
  | none => .null

/-- The parameters of columns, bound to the values of an item. -/
def bound (columns : List Column) (values : List Value) : List Parameter :=
  columns.map fun c => c.parameter.bind (t.valueOf values c)

/-- The entity of items with a value for each column. -/
def entity {Item : Type} (values : Item → List Value) (ofRow : Row → Except Fault Item) :
    Entity Item where
  dialect := t.dialect
  texts := t.texts
  insertParameters item := t.bound t.insertColumns (values item)
  updateParameters item := t.bound (t.updateColumns ++ t.keyColumns) (values item)
  keyParameters item := t.bound t.keyColumns (values item)
  stagingRow item := t.columns.map (t.valueOf (values item))
  ofRow := ofRow

/-- The entity whose items are lists of values, one for each column. -/
def plainEntity : Entity (List Value) :=
  t.entity id fun row => t.columns.mapM fun c => row.readValue c.property

/-- The parameters of a key. Values beyond the last key column begin again with the first one. -/
def boundKey (key : List Value) : List Parameter :=
  key.zipIdx.filterMap fun (value, i) =>
    t.keyColumns[i % t.keyColumns.length]?.map fun c => c.parameter.bind value

end Table

/-- The same entity without bulk synchronization. -/
def Entity.unstaged {Item : Type} (e : Entity Item) : Entity Item :=
  { e with texts := { e.texts with staging := none } }

end Tablewright
