import Tablewright.Proofs.StatementLimits

/-!
# Plans of a synchronization

A batch is inserted at once if it asks for nothing but inserts and one statement can hold all of them;
any other batch is staged. The plan multiplies rows by columns with 64 bits, which saturate, and the
inserts of many items divide the limit by the columns. Both find the same bound.

## Key results

- `saturatingProduct_lt_iff`: a product that saturates is below a limit of 64 bits if it is below it
- `plan_eq_fastPath_iff`: which batches are inserted at once
- `plan_exact`: all plans, and those that inserts of many items agree with
-/

namespace Tablewright

open Sql

/-- A product that saturates is below a limit of 64 bits if and only if the exact product is. -/
theorem saturatingProduct_lt_iff {limit : Nat} (hlimit : limit ≤ greatestCount) (m n : Nat) :
    saturatingProduct m n < limit ↔ m * n < limit := by
  rw [saturatingProduct]
  omega

theorem parameterLimit_le_greatestCount (d : Dialect) : d.parameterLimit ≤ greatestCount := by
  cases d <;> decide

namespace SyncOptions

/-- The number of parameters that one insert must stay below. -/
def limitFor (options : SyncOptions) (d : Dialect) : Nat :=
  options.parameterLimit.getD d.parameterLimit

theorem limitFor_le {options : SyncOptions} (h : ∀ limit ∈ options.parameterLimit, limit ≤ greatestCount)
    (d : Dialect) : options.limitFor d ≤ greatestCount := by
  rw [limitFor]
  cases hlimit : options.parameterLimit with
  | none => exact parameterLimit_le_greatestCount d
  | some limit => exact h limit hlimit

end SyncOptions

namespace Batch

variable {Item : Type} {e : Entity Item} {b : Batch Item} {options : SyncOptions}

theorem isInsertOnly_iff : b.isInsertOnly = true ↔ ∀ change ∈ b, change.kind = .insert := by
  simp [isInsertOnly]

theorem all_maxValuesRows (d : Dialect) (rows : Nat) :
    d.maxValuesRows.all (rows ≤ ·) = true ↔ (d = .sqlServer → rows ≤ 1000) := by
  cases d <;> simp [Dialect.maxValuesRows]

/-- Whether one statement is going to insert the whole batch. -/
def fitsAtOnce (b : Batch Item) (e : Entity Item) (options : SyncOptions) : Bool :=
  b.isInsertOnly && decide (saturatingProduct b.length e.texts.insertWidth < options.limitFor e.dialect) &&
    e.dialect.maxValuesRows.all (b.length ≤ ·)

/-- A batch that is not empty is inserted at once, or it is staged. -/
theorem plan_of_ne_nil (e : Entity Item) (options : SyncOptions) (hne : b ≠ []) :
    b.plan e options =
      if b.fitsAtOnce e options then .fastPath else .staging (options.indexThreshold ≤ b.length) := by
  have hempty : b.isEmpty = false := by simpa using hne
  rw [plan, hempty]
  rfl

theorem fitsAtOnce_iff (hlimit : ∀ limit ∈ options.parameterLimit, limit ≤ greatestCount) :
    b.fitsAtOnce e options = true ↔ (∀ change ∈ b, change.kind = .insert) ∧
      e.dialect.WithinLimits (options.limitFor e.dialect) e.texts.insertWidth b.length := by
  rw [fitsAtOnce, Bool.and_eq_true, Bool.and_eq_true, decide_eq_true_eq, isInsertOnly_iff,
    all_maxValuesRows, saturatingProduct_lt_iff (SyncOptions.limitFor_le hlimit e.dialect)]
  exact ⟨fun ⟨⟨h, hbelow⟩, hrows⟩ => ⟨h, hbelow, hrows⟩, fun ⟨h, hbelow, hrows⟩ => ⟨⟨h, hbelow⟩, hrows⟩⟩

/-- A batch is inserted at once if it asks for inserts only and one statement within the limits holds all
of them. -/
theorem plan_eq_fastPath_iff (hne : b ≠ [])
    (hlimit : ∀ limit ∈ options.parameterLimit, limit ≤ greatestCount) :
    b.plan e options = .fastPath ↔ (∀ change ∈ b, change.kind = .insert) ∧
      e.dialect.WithinLimits (options.limitFor e.dialect) e.texts.insertWidth b.length := by
  rw [plan_of_ne_nil e options hne, ← fitsAtOnce_iff hlimit]
  cases b.fitsAtOnce e options <;> simp

/-- A batch that is neither empty nor inserted at once is staged, with an index from the threshold on. -/
theorem plan_eq_staging (hne : b ≠ []) (h : b.plan e options ≠ .fastPath) :
    b.plan e options = .staging (options.indexThreshold ≤ b.length) := by
  rw [plan_of_ne_nil e options hne] at h ⊢
  cases hfits : b.fitsAtOnce e options with
  | true =>
    rw [hfits] at h
    exact absurd rfl h
  | false => rfl

/-- The items of a batch are as many values as the rows and columns of its statement, and each value has
a number of its own, from one on. -/
theorem names_insertCommand (hitems : ∀ change ∈ b, (e.insertParameters change.item).length =
      e.texts.insertWidth) (timeout : Option Nat) :
    (e.insertCommand (b.map (·.item)) timeout).parameters.map (·.name) =
      positionalNames e.dialect (b.length * e.texts.insertWidth) := by
  have hlength : ((b.map (·.item)).flatMap e.insertParameters).length =
      b.length * e.texts.insertWidth := by
    rw [length_flatMap_of_length (n := e.texts.insertWidth), List.length_map]
    intro item hm
    obtain ⟨change, hc, rfl⟩ := List.mem_map.1 hm
    exact hitems change hc
  rw [Entity.insertCommand, names_positional, hlength]

/-- All plans of a batch that is not empty, for limits of 64 bits. It is inserted at once exactly if it
asks for inserts only and the exact product of its rows and columns is below the limit, with no more rows
than the dialect allows; then the product and the number behind the last value are counts of 64 bits.
Inserts of many items come to the same: they need one statement exactly for these batches. -/
theorem plan_exact (e : Entity Item) (options : SyncOptions) (hne : b ≠ [])
    (hlimit : ∀ limit ∈ options.parameterLimit, limit ≤ greatestCount) :
    (b.plan e options = .fastPath ↔ (∀ change ∈ b, change.kind = .insert) ∧
      b.length * e.texts.insertWidth < options.parameterLimit.getD e.dialect.parameterLimit ∧
      (e.dialect = .sqlServer → b.length ≤ 1000)) ∧
    (b.plan e options ≠ .fastPath →
      b.plan e options = .staging (options.indexThreshold ≤ b.length)) ∧
    (saturatingProduct b.length e.texts.insertWidth <
        options.parameterLimit.getD e.dialect.parameterLimit ↔
      b.length * e.texts.insertWidth < options.parameterLimit.getD e.dialect.parameterLimit) ∧
    (b.plan e options = .fastPath →
      b.length * e.texts.insertWidth + 1 ≤ greatestCount ∧
      placeholdersIn e.dialect (valueGroups e.dialect b.length e.texts.insertWidth 1) =
        (List.range (b.length * e.texts.insertWidth)).map (fun k => e.dialect.placeholder (k + 1)) ∧
      ((∀ change ∈ b, (e.insertParameters change.item).length = e.texts.insertWidth) →
        (e.insertCommand (b.map (·.item)) options.timeout).parameters.map (·.name) =
          (List.range (b.length * e.texts.insertWidth)).map fun k => e.dialect.positionalName (k + 1))) ∧
    (0 < e.texts.insertWidth →
      e.texts.insertWidth < options.parameterLimit.getD e.dialect.parameterLimit →
      (∀ change ∈ b, change.kind = .insert) →
      (b.plan e options = .fastPath ↔ b.length ≤
        e.dialect.batchRows (options.parameterLimit.getD e.dialect.parameterLimit) e.texts.insertWidth) ∧
      (b.plan e options = .fastPath ↔
        (chunks (e.dialect.batchRows (options.parameterLimit.getD e.dialect.parameterLimit)
          e.texts.insertWidth) (b.map (·.item))).length = 1)) := by
  have hplan := plan_eq_fastPath_iff (e := e) hne hlimit
  have hmost : options.parameterLimit.getD e.dialect.parameterLimit ≤ greatestCount :=
    SyncOptions.limitFor_le hlimit e.dialect
  refine ⟨⟨fun h => ?_, fun ⟨h, hbelow, hrows⟩ => hplan.2 ⟨h, hbelow, hrows⟩⟩, plan_eq_staging hne,
    saturatingProduct_lt_iff hmost _ _, fun h => ?_, fun hwidth hless hinserts => ?_⟩
  · obtain ⟨hinserts, hwithin⟩ := hplan.1 h
    exact ⟨hinserts, hwithin.parameters, hwithin.rows⟩
  · have hbelow : b.length * e.texts.insertWidth < options.parameterLimit.getD e.dialect.parameterLimit :=
      (hplan.1 h).2.parameters
    exact ⟨by omega, placeholdersIn_valueGroups _ _ _, fun hitems => names_insertCommand hitems _⟩
  · -- The division finds the greatest number of rows whose product is below the limit.
    have hfits : b.plan e options = .fastPath ↔ b.length ≤
        e.dialect.batchRows (options.parameterLimit.getD e.dialect.parameterLimit)
          e.texts.insertWidth := by
      rw [hplan, Dialect.le_batchRows_iff hwidth hless]
      exact and_iff_right hinserts
    have hitems : b.map (·.item) ≠ [] := by simpa using hne
    refine ⟨hfits, ?_⟩
    rw [hfits, length_chunks_eq_one (e.dialect.batchRows_pos _ _) hitems, List.length_map]

/-- Two deliveries of two values each are inserted at once below a limit of five values, and staged where
the limit is the four that they have. -/
theorem plan_exact_stock :
    Table.deliveries.plan (Table.stock .sqlServer).plainEntity { parameterLimit := some 5 } = .fastPath ∧
    Table.deliveries.plan (Table.stock .sqlServer).plainEntity { parameterLimit := some 4 } =
      .staging false := by
  have hne : Table.deliveries ≠ [] := List.cons_ne_nil _ _
  have hinserts : ∀ change ∈ Table.deliveries, change.kind = .insert := by decide
  obtain ⟨hbelow, -⟩ := plan_exact (Table.stock .sqlServer).plainEntity { parameterLimit := some 5 } hne
    (by decide)
  obtain ⟨hreached, hstaged, -⟩ := plan_exact (Table.stock .sqlServer).plainEntity
    { parameterLimit := some 4 } hne (by decide)
  refine ⟨hbelow.2 ⟨hinserts, by decide, fun _ => by decide⟩, hstaged fun h => ?_⟩
  have hless := (hreached.1 h).2.1
  exact absurd hless (by decide)

end Batch

end Tablewright
