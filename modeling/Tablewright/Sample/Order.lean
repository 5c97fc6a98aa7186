import Tablewright.Store.TableEntity

/-!
# Orders

Orders of a shop, kept in a table of the schema `sales`, and the totals of a report on them.
-/

namespace Tablewright.Sample

/-- The state of an order. -/
inductive OrderStatus where
  | pending
  | shipped
  | cancelled
  deriving DecidableEq, Repr

/-- The number by which a table keeps the state. -/
def OrderStatus.code : OrderStatus → Int
  | pending => 1
  | shipped => 2
  | cancelled => 3

/-- The state of a code. -/
def OrderStatus.ofCode? (code : Int) : Option OrderStatus :=
  [pending, shipped, cancelled].find? fun s => s.code == code

/-- Reads a state from a column. -/
def OrderStatus.read (row : Row) (column : String) : Except Fault OrderStatus := do
  let raw ← row.read (.int .i16) column
  match ofCode? raw.val with
  | some s => return s
  | none => throw (.decode column (Text.signedNumeral raw.val ++ " is not a valid OrderStatus"))

/-- The value of a state. -/
def OrderStatus.value (s : OrderStatus) : Value :=
  IntType.i16.toValue s.code

/-- An order. -/
structure Order where
  id : IntType.i32.Range
  customer : String
  status : OrderStatus
  total : Decimal
  note : Option String
  placedAt : DateTime

namespace Order

/-- The table of orders. -/
def table : Dialect → Table
  | .sqlServer =>
    { dialect := .sqlServer
      schema := "sales"
      name := "Orders"
      columns :=
        [.ofProperty "id" (.sqlServer .int),
          { Column.ofProperty "customer" (.sqlServer .nVarChar) with
            name := "CustomerName", size := some (.length 120) },
          .ofProperty "status" (.sqlServer .smallInt),
          { Column.ofProperty "total" (.sqlServer .decimal) with precision := some 18, scale := some 2 },
          { Column.ofProperty "note" (.sqlServer .nVarChar) with size := some .max, nullable := true },
          { Column.ofProperty "placed_at" (.sqlServer .dateTime2) with
            name := "PlacedAt", default := some "SYSUTCDATETIME()" }]
      keys := ["id"]
      identity := [] }
  | .postgres =>
    { dialect := .postgres
      schema := "sales"
      name := "Orders"
      columns :=
        [.ofProperty "id" (.postgres .integer),
          { Column.ofProperty "customer" (.postgres .varChar) with
            name := "customer_name", size := some (.length 120) },
          .ofProperty "status" (.postgres .smallInt),
          { Column.ofProperty "total" (.postgres .numeric) with precision := some 18, scale := some 2 },
          { Column.ofProperty "note" (.postgres .text) with nullable := true },
          .ofProperty "placed_at" (.postgres .timestamp)]
      keys := ["id"]
      identity := [] }

/-- The values of an order, in the order of the columns. -/
def values (o : Order) : List Value :=
  [(Scalar.int .i32).write o.id, .text o.customer, o.status.value, .decimal o.total,
    (Scalar.optional .text).write o.note, .dateTime o.placedAt]

/-- Reads an order from a row with a column for each property. -/
def ofRow (row : Row) : Except Fault Order := do
  return {
    id := ← row.read (.int .i32) "id"
    customer := ← row.read .text "customer"
    status := ← OrderStatus.read row "status"
    total := ← row.read .decimal "total"
    note := ← row.read (.optional .text) "note"
    placedAt := ← row.read .dateTime "placed_at" }

/-- How orders are kept. -/
def entity (d : Dialect) : Entity Order :=
  (table d).entity values ofRow

end Order

/-- The orders of one state and the sum of their totals. -/
structure StatusTotal where
  status : OrderStatus
  orders : IntType.i64.Range
  total : Decimal

namespace StatusTotal

/-- The values of a line of the report. -/
def values (s : StatusTotal) : List Value :=
  [s.status.value, (Scalar.int .i64).write s.orders, .decimal s.total]

/-- Reads a line of the report. -/
def ofRow (row : Row) : Except Fault StatusTotal := do
  return {
    status := ← OrderStatus.read row "status"
    orders := ← row.read (.int .i64) "orders"
    total := ← row.read .decimal "total" }

end StatusTotal

end Tablewright.Sample
