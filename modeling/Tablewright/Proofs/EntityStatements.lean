import Tablewright.Proofs.RowStatements
import Tablewright.Store.TableEntity

/-!
# Statements of a table's entity

What an entity of a table sends for its items, as the records that the items are: the values that it
binds by name and by position are those of the record that it would stage, and the statement that it
sends does to the store what the statement on rows says.

## Key results

- `values_bound`: the values that an item binds are the cells of its record
- `update_eq_executeIn`, `delete_eq_executeIn`: what an entity executes
- `run_insert`, `run_insertCommand`, `run_update`, `run_delete`: the statements of an entity
-/

namespace Tablewright

open Sql

namespace Table

variable {t : Table}

/-- The record of the values of an item. -/
def record (t : Table) (values : List Value) : List Value :=
  t.columns.map (t.valueOf values)

theorem cell_record (hd : (t.columns.map (·.name)).Nodup) (values : List Value) {c : Column}
    (hc : c ∈ t.columns) : t.cell (t.record values) c = t.valueOf values c := by
  rw [cell, MemoryTable.valueAt, record, List.getElem?_map, getElem?_placeOf hd hc]
  rfl

theorem values_bound_eq (t : Table) (columns : List Column) (values : List Value) :
    (t.bound columns values).map (·.value) = columns.map (t.valueOf values) := by
  rw [bound, List.map_map]
  rfl

/-- The values that an item binds are the cells of its record. -/
theorem values_bound (hd : (t.columns.map (·.name)).Nodup) {columns : List Column}
    (hsub : ∀ c ∈ columns, c ∈ t.columns) (values : List Value) :
    (t.bound columns values).map (·.value) = columns.map (t.cell (t.record values)) := by
  rw [values_bound_eq]
  exact List.map_congr_left fun c hc => (cell_record hd values (hsub c hc)).symm

/-! ## Operations with their texts -/

variable {Item σ : Type} {values : Item → List Value} {ofRow : Row → Except Fault Item}
  (conn : Connection σ)

/-- A table with columns to write has a text for updates. -/
theorem update_eq_executeIn (hp : t.Named) (hupdate : t.updateColumns ≠ []) (item : Item) :
    (t.entity values ofRow).update conn item = conn.executeIn t.dialect
      { sql := t.textOf t.rowUpdate, parameters := (t.entity values ofRow).updateParameters item } := by
  have htext : (t.entity values ofRow).texts.update = some (t.textOf t.rowUpdate) := by
    show t.update.map t.textOf = _
    rw [update_eq hp hupdate, Option.map_some]
  rw [Entity.update, htext]
  rfl

/-- A table with a key has a text for deletions. -/
theorem delete_eq_executeIn (hp : t.Named) (item : Item) :
    (t.entity values ofRow).delete conn item = conn.executeIn t.dialect
      { sql := t.textOf t.rowDelete, parameters := (t.entity values ofRow).keyParameters item } := by
  have htext : (t.entity values ofRow).texts.delete = some (t.textOf t.rowDelete) := by
    show t.delete.map t.textOf = _
    rw [delete_eq hp, Option.map_some]
  rw [Entity.delete, htext]
  rfl

end Table

theorem values_positional (d : Dialect) (parameters : List Parameter) (start : Nat) :
    (positional d parameters start).map (·.value) = parameters.map (·.value) := by
  refine List.ext_getElem? fun i => ?_
  rw [positional, List.getElem?_map, List.getElem?_mapIdx, List.getElem?_map]
  cases parameters[i]? <;> rfl

namespace MemoryStore

variable {s : MemoryStore} {t : Table} {Item : Type} {values : Item → List Value}
  {ofRow : Row → Except Fault Item}

theorem toList_insert (t : Table) :
    (t.textOf t.insert).toList = insertText t
      [t.insertColumns.zipIdx.map fun (c, i) =>
        (t.dialect.namedPlaceholder c.parameterName (i + 1)).toList] := by
  have hopen : "(".toList = ['('] := by decide
  have hclose : ")".toList = [')'] := by decide
  rw [Table.textOf, Statement.toList_text, Table.insert, insertText, List.map_singleton,
    List.intercalate_singleton, groupText]
  simp only [Statement.chars_append, List.cons_append, Statement.chars_word, Statement.chars_joined,
    Statement.chars_nil, List.map_map, hopen, hclose, List.append_assoc, List.nil_append,
    List.append_nil]
  -- What is left are the placeholders of the columns, as the dialect writes them.
  congr 5
  refine funext fun p => ?_
  rw [Function.comp_apply, Statement.chars_parameter, Statement.chars_nil, List.append_nil]

theorem toList_insertBatch (t : Table) (rows : Nat) :
    (t.textOf t.insertBatch ++ valueGroups t.dialect rows t.insertColumns.length 1).toList =
      insertText t ((List.range rows).map fun i =>
        numbered t.dialect t.insertColumns.length (1 + i * t.insertColumns.length)) := by
  rw [String.toList_append, toList_valueGroups, Table.textOf, Statement.toList_text, insertText]
  rfl

theorem mem_columns_of_mem_insertColumns : ∀ c ∈ t.insertColumns, c ∈ t.columns :=
  fun _ hc => (Table.mem_insertColumns.1 hc).1

/-- An insert of one row has one group of placeholders, each with the name of its column. -/
theorem isPlaceholder_insert (t : Table) :
    ∀ g ∈ [t.insertColumns.zipIdx.map fun p : Column × Nat =>
      (t.dialect.namedPlaceholder p.1.parameterName (p.2 + 1)).toList], ∀ p ∈ g, IsPlaceholder p := by
  intro g hg p hp
  rw [List.mem_singleton.1 hg] at hp
  obtain ⟨⟨c, i⟩, -, rfl⟩ := List.mem_map.1 hp
  exact isPlaceholder_named t.dialect (isPlainName_parameterName c) (i + 1)

theorem isPlaceholder_insertBatch (t : Table) (rows : Nat) :
    ∀ g ∈ (List.range rows).map fun i =>
      numbered t.dialect t.insertColumns.length (1 + i * t.insertColumns.length),
      ∀ p ∈ g, IsPlaceholder p := by
  intro g hg p hp
  obtain ⟨i, -, rfl⟩ := List.mem_map.1 hg
  exact isPlaceholder_numbered t.dialect t.insertColumns.length _ p hp

/-- Inserting an item appends its new record. -/
theorem run_insert (hp : t.Named) (hs : s.Serves t) (item : Item) :
    (MemoryStore.run (t.entity values ofRow).texts.insert
        (((t.entity values ofRow).insertParameters item).map (·.value))).run s =
      (.ok { affected := 1 },
        s.holding (s.table.rows ++ t.newRecords s.table.nextIdentity [t.record (values item)])
          (t.nextAfter s.table.nextIdentity 1)) := by
  have hvalues := Table.values_bound hp.distinct mem_columns_of_mem_insertColumns (values item)
  have hrun := run_insertRows hp hs (toList_insert t) (List.cons_ne_nil _ _) (isPlaceholder_insert t)
    [t.record (values item)]
  rw [List.flatMap_singleton, ← hvalues] at hrun
  exact hrun

/-- Inserting items at once appends their new records. -/
theorem run_insertCommand (hp : t.Named) (hs : s.Serves t) {items : List Item} (hne : items ≠ [])
    (timeout : Option Nat) :
    (MemoryStore.run ((t.entity values ofRow).insertCommand items timeout).sql
        (((t.entity values ofRow).insertCommand items timeout).parameters.map (·.value))).run s =
      (.ok { affected := items.length },
        s.holding (s.table.rows ++
            t.newRecords s.table.nextIdentity (items.map fun item => t.record (values item)))
          (t.nextAfter s.table.nextIdentity items.length)) := by
  have hvalues (item : Item) :=
    Table.values_bound hp.distinct mem_columns_of_mem_insertColumns (values item)
  -- The parameters of all items in a row are the values of all records in a row.
  have hparameters : ((t.entity values ofRow).insertCommand items timeout).parameters.map (·.value) =
      (items.map fun item => t.record (values item)).flatMap fun record =>
        t.insertColumns.map (t.cell record) := by
    rw [Entity.insertCommand, values_positional, List.map_flatMap, List.flatMap_map]
    exact List.flatMap_congr fun item _ => hvalues item
  have hrange : (List.range items.length).map (fun i =>
      numbered t.dialect t.insertColumns.length (1 + i * t.insertColumns.length)) ≠ [] := by
    simpa using hne
  have hrun := run_insertRows hp hs (toList_insertBatch t items.length) hrange
    (isPlaceholder_insertBatch t items.length) (items.map fun item => t.record (values item))
  rw [hparameters]
  rw [List.length_map] at hrun
  exact hrun

/-- Updating an item replaces the update columns of the rows with its key. -/
theorem run_update (hp : t.Named) (hs : s.Serves t) (item : Item) :
    (MemoryStore.run (t.textOf t.rowUpdate)
        (((t.entity values ofRow).updateParameters item).map (·.value))).run s =
      (.ok { affected := s.table.rows.countP (t.sameKey · (t.record (values item))) },
        s.holding (t.withUpdates [t.record (values item)] s.table.rows) s.table.nextIdentity) := by
  have hsub : ∀ c ∈ t.updateColumns ++ t.keyColumns, c ∈ t.columns := by
    intro c hc
    rcases List.mem_append.1 hc with hc | hc
    · exact (Table.mem_updateColumns.1 hc).1
    · exact Table.mem_columns_of_mem_keyColumns hc
  have hrun := run_updateRow hp hs (t.record (values item))
  rw [← Table.values_bound hp.distinct hsub] at hrun
  exact hrun

/-- Deleting an item removes the rows with its key. -/
theorem run_delete (hp : t.Named) (hs : s.Serves t) (item : Item) :
    (MemoryStore.run (t.textOf t.rowDelete)
        (((t.entity values ofRow).keyParameters item).map (·.value))).run s =
      (.ok { affected := s.table.rows.countP (t.sameKey · (t.record (values item))) },
        s.holding (t.withoutDeleted [t.record (values item)] s.table.rows)
          s.table.nextIdentity) := by
  have hrun := run_deleteRow hp hs (t.record (values item))
  rw [← Table.values_bound hp.distinct fun c => Table.mem_columns_of_mem_keyColumns] at hrun
  exact hrun

end MemoryStore

end Tablewright
