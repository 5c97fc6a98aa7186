import Tablewright.Store.TableEntity

/-!
# Sensor readings

Readings of sensors, found by the sensor and the time.
-/

namespace Tablewright.Sample

/-- What a sensor measured at a time. -/
structure Reading where
  sensor : IntType.i32.Range
  takenAt : DateTime
  value : Double

namespace Reading

/-- The table of readings. -/
def table : Dialect → Table
  | .sqlServer =>
    { dialect := .sqlServer
      schema := "dbo"
      name := "SensorReadings"
      columns :=
        [.ofProperty "sensor" (.sqlServer .int), .ofProperty "taken_at" (.sqlServer .dateTime2),
          .ofProperty "value" (.sqlServer .float)]
      keys := ["sensor", "taken_at"]
      identity := [] }
  | .postgres =>
    { dialect := .postgres
      schema := "public"
      name := "sensor_readings"
      columns :=
        [.ofProperty "sensor" (.postgres .integer), .ofProperty "taken_at" (.postgres .timestamp),
          .ofProperty "value" (.postgres .doublePrecision)]
      keys := ["sensor", "taken_at"]
      identity := [] }

/-- The values of a reading, in the order of the columns. -/
def values (r : Reading) : List Value :=
  [(Scalar.int .i32).write r.sensor, .dateTime r.takenAt, .float64 r.value]

/-- Reads a reading from a row with a column for each property. -/
def ofRow (row : Row) : Except Fault Reading := do
  return {
    sensor := ← row.read (.int .i32) "sensor"
    takenAt := ← row.read .dateTime "taken_at"
    value := ← row.read .float64 "value" }

/-- How readings are kept. -/
def entity (d : Dialect) : Entity Reading :=
  (table d).entity values ofRow

end Reading

end Tablewright.Sample
