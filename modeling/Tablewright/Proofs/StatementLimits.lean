import Mathlib.Order.Bounds.Defs
import Tablewright.Proofs.StatementPlaceholders

/-!
# The limits of a statement

A statement has fewer parameters than the limit says and, in one dialect, a limited number of rows.
`Dialect.batchRows` is the greatest number of rows that keeps to both, so that the statements for many
items keep to them and none but the last one could hold more.

## Key results

- `le_batchRows_iff`: a number of rows keeps to the limits if it is at most that of a batch
- `sent_within_limits`: the statements that insert and delete many items
-/

namespace Tablewright

open Sql

namespace Dialect

/-- A statement for a number of rows of some width keeps to the limits. -/
structure WithinLimits (d : Dialect) (limit width rows : Nat) : Prop where
  parameters : rows * width < limit
  rows : d = .sqlServer → rows ≤ 1000

variable {d : Dialect} {limit width rows : Nat}

theorem rowsPerStatement_pos (limit width : Nat) : 0 < rowsPerStatement limit width := by
  unfold rowsPerStatement
  split <;> omega

theorem le_rowsPerStatement_iff (hwidth : 0 < width) (hlimit : width < limit) :
    rows ≤ rowsPerStatement limit width ↔ rows * width < limit := by
  -- One row keeps below the limit, so that the floor of one is never needed.
  have hone : 1 ≤ (limit - 1) / width := (Nat.le_div_iff_mul_le hwidth).2 (by omega)
  rw [rowsPerStatement, if_neg (by omega), Nat.max_eq_left hone, Nat.le_div_iff_mul_le hwidth]
  omega

/-- A number of rows keeps to the limits if it is at most that of a batch. -/
theorem le_batchRows_iff (hwidth : 0 < width) (hlimit : width < limit) :
    rows ≤ d.batchRows limit width ↔ d.WithinLimits limit width rows := by
  have hrows : rows ≤ rowsPerStatement limit width ↔ rows * width < limit :=
    le_rowsPerStatement_iff hwidth hlimit
  cases d with
  | sqlServer =>
    show rows ≤ min (rowsPerStatement limit width) 1000 ↔ _
    rw [Nat.le_min, hrows]
    exact ⟨fun ⟨h, hmost⟩ => ⟨h, fun _ => hmost⟩, fun h => ⟨h.parameters, h.rows rfl⟩⟩
  | postgres =>
    show rows ≤ rowsPerStatement limit width ↔ _
    rw [hrows]
    exact ⟨fun h => ⟨h, nofun⟩, fun h => h.parameters⟩

theorem isGreatest_batchRows (hwidth : 0 < width) (hlimit : width < limit) :
    IsGreatest {rows | d.WithinLimits limit width rows} (d.batchRows limit width) :=
  ⟨(le_batchRows_iff hwidth hlimit).1 (Nat.le_refl _), fun _ h => (le_batchRows_iff hwidth hlimit).2 h⟩

theorem batchRows_pos (d : Dialect) (limit width : Nat) : 0 < d.batchRows limit width := by
  have hpos := rowsPerStatement_pos limit width
  cases d with
  | sqlServer =>
    show 0 < min (rowsPerStatement limit width) 1000
    omega
  | postgres => exact hpos

end Dialect

/-! ## Statements that are sent -/

namespace Entity

variable {Item σ : Type} (e : Entity Item)

theorem length_positional (d : Dialect) (parameters : List Parameter) (start : Nat) :
    (positional d parameters start).length = parameters.length :=
  List.length_mapIdx

/-- Items of a chunk bind their values row by row, within the limits of the dialect. -/
theorem insertCommand_within {items piece : List Item} (hwidth : 0 < e.texts.insertWidth)
    (hlimit : e.texts.insertWidth < e.dialect.parameterLimit)
    (hitems : ∀ item ∈ items, (e.insertParameters item).length = e.texts.insertWidth)
    (h : piece ∈ chunks e.insertBatchSize items) :
    (e.insertCommand piece none).parameters.length = piece.length * e.texts.insertWidth ∧
      e.dialect.WithinLimits e.dialect.parameterLimit e.texts.insertWidth piece.length := by
  have hlength : piece.length ≤ e.insertBatchSize := by
    have hmost := length_le_of_mem_chunks h
    have hpos : 0 < e.insertBatchSize := e.dialect.batchRows_pos _ _
    omega
  refine ⟨?_, (Dialect.le_batchRows_iff hwidth hlimit).1 hlength⟩
  rw [Entity.insertCommand, length_positional,
    length_flatMap_of_length fun item hm => hitems item (mem_of_mem_chunks h hm)]

theorem deleteBatchSize_eq : e.deleteBatchSize + 1 = e.dialect.parameterLimit := by
  rw [deleteBatchSize]
  cases e.dialect <;> rfl

/-- Keys of one column are bound one an item, fewer than the limit says. -/
theorem deleteCommand_within {items piece : List Item}
    (hitems : ∀ item ∈ items, (e.keyParameters item).length = 1)
    (h : piece ∈ chunks e.deleteBatchSize items) (head : String) :
    (e.deleteCommand head piece).parameters.length = piece.length ∧
      piece.length < e.dialect.parameterLimit := by
  have hmost := length_le_of_mem_chunks h
  have hsize := e.deleteBatchSize_eq
  have hpos : 0 < e.deleteBatchSize := Dialect.rowsPerStatement_pos _ _
  refine ⟨?_, by omega⟩
  rw [Entity.deleteCommand, length_positional,
    length_flatMap_of_length fun item hm => hitems item (mem_of_mem_chunks h hm), Nat.mul_one]

/-- Every statement that inserts many items keeps to the limits of the dialect, and none but the last one
could hold more rows. Items that bind as many values as a row has bind them row by row. Deletions by one
key column bind one value an item, and none but the last one could bind more. -/
theorem sent_within_limits (conn : Connection σ) (items : List Item) :
    (0 < e.texts.insertWidth → e.texts.insertWidth < e.dialect.parameterLimit →
      (∀ item ∈ items, (e.insertParameters item).length = e.texts.insertWidth) →
      Sends (e.insertMany conn.recorded items)
        ((chunks e.insertBatchSize items).map fun piece => .execute (e.insertCommand piece none)) ∧
      (chunks e.insertBatchSize items).flatten = items ∧
      (∀ piece ∈ chunks e.insertBatchSize items, piece ≠ [] ∧
        (e.insertCommand piece none).sql =
          e.texts.insertBatch ++ valueGroups e.dialect piece.length e.texts.insertWidth 1 ∧
        (e.insertCommand piece none).parameters.length = piece.length * e.texts.insertWidth ∧
        e.dialect.WithinLimits e.dialect.parameterLimit e.texts.insertWidth piece.length) ∧
      (∀ piece ∈ (chunks e.insertBatchSize items).dropLast,
        piece.length = e.dialect.batchRows e.dialect.parameterLimit e.texts.insertWidth) ∧
      IsGreatest {rows | e.dialect.WithinLimits e.dialect.parameterLimit e.texts.insertWidth rows}
        (e.dialect.batchRows e.dialect.parameterLimit e.texts.insertWidth)) ∧
    ((∀ item ∈ items, (e.keyParameters item).length = 1) →
      Sends (e.deleteMany conn.recorded items)
        (e.texts.deleteBatch.toList.flatMap fun head =>
          (chunks e.deleteBatchSize items).map fun piece => .execute (e.deleteCommand head piece)) ∧
      (chunks e.deleteBatchSize items).flatten = items ∧
      (∀ piece ∈ chunks e.deleteBatchSize items, piece ≠ [] ∧ ∀ head,
        (e.deleteCommand head piece).parameters.length = piece.length ∧
        piece.length < e.dialect.parameterLimit) ∧
      ∀ piece ∈ (chunks e.deleteBatchSize items).dropLast,
        piece.length + 1 = e.dialect.parameterLimit) := by
  refine ⟨fun hwidth hlimit hitems => ?_, fun hitems => ?_⟩
  · refine ⟨sends_insertMany conn e items, flatten_chunks _ items, fun piece hm => ?_, fun piece hm => ?_,
      Dialect.isGreatest_batchRows hwidth hlimit⟩
    · obtain ⟨hparameters, hwithin⟩ := e.insertCommand_within hwidth hlimit hitems hm
      exact ⟨ne_nil_of_mem_chunks hm, rfl, hparameters, hwithin⟩
    · exact length_of_mem_dropLast_chunks (e.dialect.batchRows_pos _ _) hm
  · refine ⟨sends_deleteMany conn e items, flatten_chunks _ items, fun piece hm =>
      ⟨ne_nil_of_mem_chunks hm, e.deleteCommand_within hitems hm⟩, fun piece hm => ?_⟩
    have hsize := e.deleteBatchSize_eq
    have hpos : 0 < e.deleteBatchSize := Dialect.rowsPerStatement_pos _ _
    rw [length_of_mem_dropLast_chunks hpos hm, hsize]

/-- Goods of two values each: 1000 rows are one statement, though 1049 would keep below 2100 values. They
are cleared away by 2099 at once. -/
theorem sent_within_limits_stock :
    (0 < (Table.stock .sqlServer).plainEntity.texts.insertWidth ∧
      (Table.stock .sqlServer).plainEntity.texts.insertWidth < Dialect.sqlServer.parameterLimit) ∧
    (∀ piece ∈ (chunks 1000 (List.replicate 2500 [Value.null, .text "nails", .int32 7])).dropLast,
      piece.length = 1000) ∧
    IsGreatest {rows | Dialect.sqlServer.WithinLimits 2100 2 rows} 1000 ∧
    ∀ piece ∈ (chunks 2099 (List.replicate 2500 [Value.null, .text "nails", .int32 7])).dropLast,
      piece.length + 1 = 2100 := by
  have hwidth : 0 < (Table.stock .sqlServer).plainEntity.texts.insertWidth := by decide
  have hlimit : (Table.stock .sqlServer).plainEntity.texts.insertWidth <
      Dialect.sqlServer.parameterLimit := by decide
  obtain ⟨hinsert, hdelete⟩ := sent_within_limits (Table.stock .sqlServer).plainEntity
    MemoryConnection.connection (List.replicate 2500 [Value.null, .text "nails", .int32 7])
  obtain ⟨-, -, -, hfull, hgreatest⟩ := hinsert hwidth hlimit fun item _ => List.length_map _
  obtain ⟨-, -, -, hcleared⟩ := hdelete fun item _ => List.length_map _
  exact ⟨⟨hwidth, hlimit⟩, hfull, hgreatest, hcleared⟩

end Entity

end Tablewright
