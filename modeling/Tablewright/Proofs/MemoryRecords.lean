import Tablewright.Memory.Script
import Tablewright.Proofs.Records

/-!
# The table in memory as records

What the operations of a table in memory do to the records of a table whose columns it has. Columns
are found by their names; as these differ, each operation reaches exactly the columns that it names.

## Key results

- `newRow_insertColumns`: a new row of an insert's columns is a new record
- `update_records`, `delete_records`: one record's update and removal by its key
-/

namespace Tablewright

/-- A table in memory has the name, the columns and the assigned column of a table. -/
structure MemoryTable.Holds (m : MemoryTable) (t : Table) : Prop where
  name : m.name = t.qualifiedName
  columns : m.columns = t.columns.map (·.name)
  identity : m.identity = t.identityColumn?.map (·.name)

instance (m : MemoryTable) (t : Table) : Decidable (m.Holds t) :=
  decidable_of_iff
    (m.name = t.qualifiedName ∧ m.columns = t.columns.map (·.name) ∧
      m.identity = t.identityColumn?.map (·.name))
    ⟨fun ⟨h₁, h₂, h₃⟩ => ⟨h₁, h₂, h₃⟩, fun h => ⟨h.1, h.2, h.3⟩⟩

namespace MemoryTable

variable {m : MemoryTable} {t : Table}

theorem Holds.withRows (h : m.Holds t) (rows : List (List Value)) (next : Int) :
    Holds { m with rows := rows, nextIdentity := next } t :=
  ⟨h.name, h.columns, h.identity⟩

/-! ## Columns by their names -/

theorem position?_name (h : m.Holds t) {c : Column} (hc : c ∈ t.columns) :
    m.position? c.name = some (t.placeOf c) := by
  rw [position?, h.columns, List.findIdx?_eq_some_iff_findIdx_eq]
  have hlt := List.idxOf_lt_length_of_mem (List.mem_map_of_mem (f := (·.name)) hc)
  exact ⟨hlt, rfl⟩

theorem mem_of_identityColumn? {c : Column} (hc : t.identityColumn? = some c) :
    c ∈ t.columns ∧ t.isIdentity c.property = true := by
  obtain ⟨p, hp, hcol⟩ := Option.bind_eq_some_iff.1 hc
  refine ⟨List.mem_of_find?_eq_some hcol, ?_⟩
  have hprop : c.property = p := by simpa using List.find?_some hcol
  rw [Table.isIdentity, hprop, List.contains_iff_mem]
  exact List.mem_of_mem_head? hp

theorem identityPosition?_eq (h : m.Holds t) :
    m.identityPosition? = t.identityColumn?.map t.placeOf := by
  rw [identityPosition?, h.identity]
  cases hc : t.identityColumn? with
  | none => rfl
  | some c => exact position?_name h (mem_of_identityColumn? hc).1

theorem assign_columns (h : m.Holds t) {columns : List Column} (hsub : ∀ c ∈ columns, c ∈ t.columns)
    (value : Column → Value) (row : List Value) :
    m.assign (columns.map (·.name)) (columns.map value) row = t.written columns value row := by
  rw [assign, Table.written, List.zip_map', List.foldl_map]
  refine List.foldl_ext _ _ _ fun row c hc => ?_
  simp only [position?_name h (hsub c hc)]

/-! ## New rows -/

/-- The store never finds its own column among those that an insert names. -/
theorem identity_notMem_insertColumns (hd : (t.columns.map (·.name)).Nodup) (h : m.Holds t) :
    ((t.insertColumns.map (·.name)).any fun name => some name == m.identity) = false := by
  rw [List.any_eq_false]
  intro name hname heq
  obtain ⟨c, hc, rfl⟩ := List.mem_map.1 hname
  rw [h.identity, beq_iff_eq] at heq
  obtain ⟨c', hc', hn⟩ := Option.map_eq_some_iff.1 heq.symm
  obtain ⟨hmem, hid⟩ := mem_of_identityColumn? hc'
  obtain ⟨hcol, hnot⟩ := Table.mem_insertColumns.1 hc
  rw [Table.eq_of_name_eq hd hmem hcol hn, hnot] at hid
  exact Bool.false_ne_true hid

/-- A row filled by an insert, before the store assigns its value. -/
theorem filled_insertColumns (hd : (t.columns.map (·.name)).Nodup) (h : m.Holds t)
    (source : List Value) :
    m.filled (t.insertColumns.map (·.name)) (t.insertColumns.map (t.cell source)) =
      t.columns.mapIdx fun i c =>
        if t.isIdentity c.property then .null else valueAt source i := by
  rw [filled, assign_columns h fun c hc => (Table.mem_insertColumns.1 hc).1,
    Table.written_eq_mapIdx hd fun c hc => (Table.mem_insertColumns.1 hc).1, h.columns,
    List.length_map]
  refine List.ext_getElem? fun i => ?_
  rw [List.getElem?_mapIdx, List.getElem?_mapIdx, List.getElem?_replicate]
  cases hget : t.columns[i]? with
  | none => simp [List.getElem?_eq_none_iff.1 hget]
  | some c =>
    have hlt := (List.getElem?_eq_some_iff.1 hget).1
    have hc : c ∈ t.columns := List.mem_of_getElem? hget
    have hplace := Table.placeOf_eq hd hget
    -- A column that the store assigns is not among those of the insert and keeps its null.
    by_cases hid : t.isIdentity c.property = true
    · simp [hlt, Option.filter, Table.mem_insertColumns, hid]
    · simp [hlt, Option.filter, Table.mem_insertColumns, hc, hid, Table.cell, hplace]

/-- A new row of an insert's columns is a new record. -/
theorem newRow_insertColumns (hd : (t.columns.map (·.name)).Nodup) (h : m.Holds t)
    (source : List Value) :
    m.newRow (t.insertColumns.map (·.name)) (t.insertColumns.map (t.cell source)) =
      (t.newRecord m.nextIdentity source,
        { m with nextIdentity := t.nextAfter m.nextIdentity 1 }) := by
  rw [newRow, filled_insertColumns hd h, identityPosition?_eq h, identity_notMem_insertColumns hd h]
  cases hc : t.identityColumn? with
  | none => simp [Table.newRecord, Table.nextAfter, hc]
  | some c =>
    have hmem := (mem_of_identityColumn? hc).1
    have hrow : ((t.columns.mapIdx fun i c =>
        if t.isIdentity c.property then .null else valueAt source i).set (t.placeOf c)
          (.int64 (Int64.ofInt m.nextIdentity))) = t.newRecord m.nextIdentity source := by
      -- The store has filled the columns of the insert; now it assigns its own value.
      refine List.ext_getElem? fun i => ?_
      rw [Table.newRecord, List.getElem?_set, List.getElem?_mapIdx, List.getElem?_mapIdx, hc]
      by_cases hi : t.placeOf c = i
      · subst hi
        rw [Table.getElem?_placeOf hd hmem]
        simp [Table.placeOf_lt hmem]
      · rw [if_neg hi]
        cases hget : t.columns[i]? with
        | none => rfl
        | some c' =>
          have hne : c ≠ c' := by
            rintro rfl
            exact hi (Table.placeOf_eq hd hget)
          simp [hne]
    simp [hrow, Table.nextAfter, hc]

theorem nextAfter_add (next : Int) (a b : Nat) :
    t.nextAfter (t.nextAfter next a) b = t.nextAfter next (a + b) := by
  unfold Table.nextAfter
  split
  · omega
  · rfl

/-- What the store assigns matters only where a column takes it. -/
theorem newRecord_nextAfter (next : Int) (k : Nat) (source : List Value) :
    t.newRecord (t.nextAfter next k) source = t.newRecord (next + k) source := by
  unfold Table.nextAfter
  split
  · rfl
  · rename_i hnone
    have hid : t.identityColumn? = none := by simpa using hnone
    simp [Table.newRecord, hid]

theorem newRecords_cons (next : Int) (source : List Value) (sources : List (List Value)) :
    t.newRecords next (source :: sources) =
      t.newRecord next source :: t.newRecords (t.nextAfter next 1) sources := by
  rw [Table.newRecords, Table.newRecords, List.mapIdx_cons, List.cons.injEq]
  refine ⟨by rw [Int.natCast_zero, Int.add_zero], List.mapIdx_eq_mapIdx_iff.2 fun k hk => ?_⟩
  rw [← newRecord_nextAfter, ← newRecord_nextAfter (t.nextAfter next 1), nextAfter_add,
    Nat.add_comm]

/-- New rows of an insert's columns are new records, made one after the other. -/
theorem newRows_insertColumns (hd : (t.columns.map (·.name)).Nodup) (h : m.Holds t)
    (sources : List (List Value)) :
    m.newRows (t.insertColumns.map (·.name))
        (sources.map fun source => t.insertColumns.map (t.cell source)) =
      (t.newRecords m.nextIdentity sources,
        { m with nextIdentity := t.nextAfter m.nextIdentity sources.length }) := by
  induction sources generalizing m with
  | nil => simp [newRows, Table.newRecords, Table.nextAfter]
  | cons source sources ih =>
    have hnext := ih (h.withRows m.rows (t.nextAfter m.nextIdentity 1))
    rw [List.map_cons, newRows, newRow_insertColumns hd h]
    simp only [hnext, newRecords_cons, nextAfter_add, List.length_cons, Nat.add_comm]

theorem insert_record (hd : (t.columns.map (·.name)).Nodup) (h : m.Holds t) (source : List Value) :
    m.insert (t.insertColumns.map (·.name)) (t.insertColumns.map (t.cell source)) =
      { m with
        rows := m.rows ++ [t.newRecord m.nextIdentity source]
        nextIdentity := t.nextAfter m.nextIdentity 1 } := by
  rw [insert, newRow_insertColumns hd h]

/-! ## Rows by their keys -/

theorem meets_keyColumns (h : m.Holds t) (source row : List Value) :
    meets (m.conditions (t.keyColumns.map (·.name)) (t.keyColumns.map (t.cell source))) row =
      t.sameKey row source := by
  rw [conditions, List.zip_map', List.map_map, meets, List.all_map, Table.sameKey,
    Bool.eq_iff_iff, List.all_eq_true, List.all_eq_true]
  refine forall₂_congr fun c hc => ?_
  show (m.position? c.name).any _ = true ↔ _
  rw [position?_name h (Table.mem_columns_of_mem_keyColumns hc)]
  rfl

/-- Updates the rows with the key of a record. -/
theorem update_records (hd : (t.columns.map (·.name)).Nodup) (h : m.Holds t) (source : List Value) :
    m.update (t.keyColumns.map (·.name)) (t.keyColumns.map (t.cell source))
        (t.updateColumns.map (·.name)) (t.updateColumns.map (t.cell source)) =
      (m.rows.countP (t.sameKey · source),
        { m with rows := t.withUpdates [source] m.rows }) := by
  have hmeets := funext (meets_keyColumns h source)
  rw [update, hmeets, Prod.mk.injEq]
  refine ⟨rfl, ?_⟩
  rw [MemoryTable.mk.injEq]
  refine ⟨rfl, rfl, rfl, rfl, ?_, rfl⟩
  -- Row by row: the one record is the first with the key, or there is none.
  refine List.map_congr_left fun row _ => ?_
  rw [assign_columns h fun c hc => (Table.mem_updateColumns.1 hc).1,
    Table.written_updateColumns hd]
  by_cases hrow : t.sameKey row source = true <;> simp [hrow, List.find?]

/-- Deletes the rows with the key of a record. -/
theorem delete_records (h : m.Holds t) (source : List Value) :
    m.delete (t.keyColumns.map (·.name)) (t.keyColumns.map (t.cell source)) =
      (m.rows.countP (t.sameKey · source),
        { m with rows := t.withoutDeleted [source] m.rows }) := by
  have hmeets := funext (meets_keyColumns h source)
  rw [delete, hmeets, Table.withoutDeleted]
  simp [Table.hasKeyIn]

end MemoryTable

end Tablewright
