import Tablewright.Store.TableEntity

/-!
# Customers

Customers of a shop, found by an identifier that the store can make. They are never staged.
-/

namespace Tablewright.Sample

/-- A customer. -/
structure Customer where
  id : Uuid
  name : String
  email : Option String
  active : Bool

namespace Customer

/-- The table of customers. -/
def table : Dialect → Table
  | .sqlServer =>
    { dialect := .sqlServer
      schema := "dbo"
      name := "Customers"
      columns :=
        [.ofProperty "id" (.sqlServer .uniqueIdentifier),
          { Column.ofProperty "name" (.sqlServer .nVarChar) with size := some (.length 100) },
          { Column.ofProperty "email" (.sqlServer .varChar) with
            size := some (.length 320), nullable := true },
          .ofProperty "active" (.sqlServer .bit)]
      keys := ["id"]
      identity := [] }
  | .postgres =>
    { dialect := .postgres
      schema := "public"
      name := "Customers"
      columns :=
        [.ofProperty "id" (.postgres .uuid), .ofProperty "name" (.postgres .text),
          { Column.ofProperty "email" (.postgres .varChar) with
            size := some (.length 320), nullable := true },
          .ofProperty "active" (.postgres .boolean)]
      keys := ["id"]
      identity := [] }

/-- The values of a customer, in the order of the columns. -/
def values (c : Customer) : List Value :=
  [.uuid c.id, .text c.name, (Scalar.optional .text).write c.email, .bool c.active]

/-- Reads a customer from a row with a column for each property. -/
def ofRow (row : Row) : Except Fault Customer := do
  return {
    id := ← row.read .uuid "id"
    name := ← row.read .text "name"
    email := ← row.read (.optional .text) "email"
    active := ← row.read .bool "active" }

/-- How customers are kept. -/
def entity (d : Dialect) : Entity Customer :=
  ((table d).entity values ofRow).unstaged

end Customer

end Tablewright.Sample
