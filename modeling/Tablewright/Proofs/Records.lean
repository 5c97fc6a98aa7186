import Mathlib.Data.List.Nodup
import Tablewright.Memory.Store
import Tablewright.Proofs.PlainNames
import Tablewright.Store.Batch

/-!
# Records of a table

The rows of a table seen through its columns. A record has a value for each column; changes to
records are described here without any statement: new records with the values that the store
assigns, the update columns of records replaced, records removed by their keys. `Table.synced` is what
a batch of changes makes of the rows as a whole.

## Key results

- `written_eq_mapIdx`: writing some columns one after the other sets exactly these columns
- `sameKey_overwritten`: the update columns are not part of the key
-/

namespace Tablewright

namespace Table

/-- A table whose names are plain, whose columns have different names, none of them that of the kind
of a change, with a key and with columns that an insert writes. -/
structure Plain (t : Table) : Prop where
  schema : isPlainName t.schema = true
  name : isPlainName t.name = true
  columns : ∀ c ∈ t.columns, isPlainName c.name = true
  distinct : (t.columns.map (·.name)).Nodup
  untagged : opColumn ∉ t.columns.map (·.name)
  keyed : t.keys ≠ []
  keysNamed : ∀ k ∈ t.keys, (t.column? k).isSome = true
  writable : t.insertColumns ≠ []

instance (t : Table) : Decidable t.Plain :=
  decidable_of_iff
    (isPlainName t.schema = true ∧ isPlainName t.name = true ∧
      (∀ c ∈ t.columns, isPlainName c.name = true) ∧ (t.columns.map (·.name)).Nodup ∧
      opColumn ∉ t.columns.map (·.name) ∧ t.keys ≠ [] ∧
      (∀ k ∈ t.keys, (t.column? k).isSome = true) ∧ t.insertColumns ≠ [])
    ⟨fun ⟨h₁, h₂, h₃, h₄, h₅, h₆, h₇, h₈⟩ => ⟨h₁, h₂, h₃, h₄, h₅, h₆, h₇, h₈⟩,
      fun h => ⟨h.1, h.2, h.3, h.4, h.5, h.6, h.7, h.8⟩⟩

/-- A table like a plain one, of which a column may be named like the kind of a change. Statements on
its rows do not stage them. -/
structure Named (t : Table) : Prop where
  schema : isPlainName t.schema = true
  name : isPlainName t.name = true
  columns : ∀ c ∈ t.columns, isPlainName c.name = true
  distinct : (t.columns.map (·.name)).Nodup
  keyed : t.keys ≠ []
  keysNamed : ∀ k ∈ t.keys, (t.column? k).isSome = true
  writable : t.insertColumns ≠ []

theorem Plain.named {t : Table} (h : t.Plain) : t.Named :=
  ⟨h.schema, h.name, h.columns, h.distinct, h.keyed, h.keysNamed, h.writable⟩

variable (t : Table)

/-! ## Cells and keys -/

/-- The position of a column. -/
def placeOf (c : Column) : Nat :=
  (t.columns.map (·.name)).idxOf c.name

/-- The value of a column in a row. -/
def cell (row : List Value) (c : Column) : Value :=
  MemoryTable.valueAt row (t.placeOf c)

/-- Whether two rows have the same key. -/
def sameKey (row other : List Value) : Bool :=
  t.keyColumns.all fun c => (t.cell row c).sameKey (t.cell other c)

/-- Whether a row has the key of one of several records. -/
def hasKeyIn (sources : List (List Value)) (row : List Value) : Bool :=
  sources.any (t.sameKey row)

/-! ## Changes to rows -/

/-- Whether an update writes a column. -/
def isUpdated (c : Column) : Bool :=
  !t.isKey c.property && !t.isIdentity c.property

/-- A row with the update columns of a record in the place of its own. -/
def overwritten (source row : List Value) : List Value :=
  row.mapIdx fun i old =>
    if t.columns[i]?.any t.isUpdated then MemoryTable.valueAt source i else old

/-- The rows, each after the first record with its key. -/
def withUpdates (sources rows : List (List Value)) : List (List Value) :=
  rows.map fun row => ((sources.find? (t.sameKey row)).map (t.overwritten · row)).getD row

/-- The rows without those that have the key of a record. -/
def withoutDeleted (sources rows : List (List Value)) : List (List Value) :=
  rows.filter fun row => !t.hasKeyIn sources row

/-- The column whose values the store assigns. -/
def identityColumn? : Option Column :=
  t.identity.head?.bind t.column?

/-- The row that an insert makes of a record, with the value that the store assigns next. -/
def newRecord (next : Int) (source : List Value) : List Value :=
  t.columns.mapIdx fun i c =>
    if t.identityColumn? = some c then .int64 (Int64.ofInt next)
    else if t.isIdentity c.property then .null
    else MemoryTable.valueAt source i

/-- The rows that inserts make of records, one after the other. -/
def newRecords (next : Int) (sources : List (List Value)) : List (List Value) :=
  sources.mapIdx fun k source => t.newRecord (next + k) source

/-- The value that the store assigns next after a number of inserts. -/
def nextAfter (next : Int) (count : Nat) : Int :=
  if t.identityColumn?.isSome then next + count else next

end Table

/-- The records of the changes of one kind, in order. -/
def recordsOf (kind : ChangeKind) (changes : List (ItemChange (List Value))) : List (List Value) :=
  (changes.filter (·.kind = kind)).map (·.item)

namespace Table

variable (t : Table)

/-- What a batch of changes makes of a table, and the numbers of its changes: new records are
inserted, then rows are updated, then rows are removed. In one dialect the updates and removals see
the new rows, in the other one they do not. -/
def synced (m : MemoryTable) (changes : List (ItemChange (List Value))) : SyncCounts × MemoryTable :=
  let new := t.newRecords m.nextIdentity (recordsOf .insert changes)
  let seen := match t.dialect with
    | .sqlServer => m.rows ++ new
    | .postgres => m.rows
  let after := t.withUpdates (recordsOf .update changes) seen
  let kept := t.withoutDeleted (recordsOf .delete changes) after
  ({ inserted := new.length
     updated := if t.updateColumns.isEmpty then 0 else seen.countP (t.hasKeyIn (recordsOf .update changes))
     deleted := after.countP (t.hasKeyIn (recordsOf .delete changes)) },
    { m with
      rows := match t.dialect with
        | .sqlServer => kept
        | .postgres => kept ++ new
      nextIdentity := t.nextAfter m.nextIdentity new.length })

/-- A table of goods in stock, whose identifiers the store assigns. -/
def stock (d : Dialect) : Table where
  dialect := d
  schema := d.defaultSchema
  name := "Stock"
  columns :=
    match d with
    | .sqlServer => [.ofProperty "id" (.sqlServer .bigInt), .ofProperty "article" (.sqlServer .varChar),
        .ofProperty "pieces" (.sqlServer .int)]
    | .postgres => [.ofProperty "id" (.postgres .bigInt), .ofProperty "article" (.postgres .text),
        .ofProperty "pieces" (.postgres .integer)]
  keys := ["id"]
  identity := ["id"]

/-- The goods of a number in stock, which the store holds under the identifiers from one on. -/
def stocked (d : Dialect) (pieces : List Int32) : MemoryStore where
  dialect := d
  table :=
    { name := (stock d).qualifiedName
      columns := ["id", "article", "pieces"]
      keys := ["id"]
      identity := some "id"
      rows := pieces.mapIdx fun i n => [.int64 (Int64.ofNat (i + 1)), .text "article", .int32 n]
      nextIdentity := pieces.length + 1 }
  created := true
  staging := []

/-- Two equal deliveries of goods. -/
def deliveries : Batch (List Value) :=
  [⟨.insert, [.null, .text "nails", .int32 7]⟩, ⟨.insert, [.null, .text "nails", .int32 7]⟩]

/-- Some goods are sold, some are delivered and some are cleared away. -/
def trade : Batch (List Value) :=
  [⟨.update, [.int64 2, .text "nails", .int32 3]⟩, ⟨.insert, [.null, .text "nails", .int32 7]⟩,
    ⟨.delete, [.int64 1, .null, .null]⟩]

/-! ## Places of columns -/

variable {t} {c : Column}

theorem placeOf_lt (hc : c ∈ t.columns) : t.placeOf c < t.columns.length := by
  have h := List.idxOf_lt_length_of_mem (List.mem_map_of_mem (f := (·.name)) hc)
  rwa [List.length_map] at h

theorem name_eq_of_placeOf {i : Nat} (hc : c ∈ t.columns) (hi : t.placeOf c = i) :
    (t.columns[i]?).map (·.name) = some c.name := by
  have hlt : t.placeOf c < (t.columns.map (·.name)).length := by
    rw [List.length_map]
    exact placeOf_lt hc
  rw [← List.getElem?_map, ← hi, List.getElem?_eq_getElem hlt]
  exact congrArg some (List.getElem_idxOf hlt)

/-- Columns with different names are told apart by their names. -/
theorem eq_of_name_eq (hd : (t.columns.map (·.name)).Nodup) {c' : Column} (hc : c ∈ t.columns)
    (hc' : c' ∈ t.columns) (h : c.name = c'.name) : c = c' :=
  List.inj_on_of_nodup_map hd hc hc' h

theorem getElem?_placeOf (hd : (t.columns.map (·.name)).Nodup) (hc : c ∈ t.columns) :
    t.columns[t.placeOf c]? = some c := by
  obtain ⟨c', hget, hname⟩ := Option.map_eq_some_iff.1 (name_eq_of_placeOf hc rfl)
  rw [hget, eq_of_name_eq hd (List.mem_of_getElem? hget) hc hname]

theorem placeOf_eq (hd : (t.columns.map (·.name)).Nodup) {i : Nat} (hi : t.columns[i]? = some c) :
    t.placeOf c = i := by
  have hlt : i < (t.columns.map (·.name)).length := by
    rw [List.length_map]
    exact (List.getElem?_eq_some_iff.1 hi).1
  have hname : (t.columns.map (·.name))[i] = c.name := by
    obtain ⟨_, rfl⟩ := List.getElem?_eq_some_iff.1 hi
    rw [List.getElem_map]
  rw [placeOf, ← hname, hd.idxOf_getElem i hlt]

/-! ## Writing columns -/

/-- A row with values written to columns, one after the other. -/
def written (t : Table) (columns : List Column) (value : Column → Value) (row : List Value) :
    List Value :=
  columns.foldl (fun row c => row.set (t.placeOf c) (value c)) row

/-- Writing columns sets exactly these columns. -/
theorem written_eq_mapIdx (hd : (t.columns.map (·.name)).Nodup) {columns : List Column}
    (hsub : ∀ c ∈ columns, c ∈ t.columns) (value : Column → Value) (row : List Value) :
    t.written columns value row = row.mapIdx fun i old =>
      ((t.columns[i]?.filter (· ∈ columns)).map value).getD old := by
  -- The columns written first may be written again; the row changes on the way.
  induction columns generalizing row with
  | nil =>
    show row = _
    refine List.ext_getElem? fun i => ?_
    rw [List.getElem?_mapIdx]
    cases row[i]? <;> cases t.columns[i]? <;> simp [Option.filter]
  | cons c columns ih =>
    have hc := hsub c List.mem_cons_self
    rw [written, List.foldl_cons]
    refine (ih (fun c' hc' => hsub c' (List.mem_cons_of_mem _ hc')) _).trans ?_
    refine List.ext_getElem? fun i => ?_
    rw [List.getElem?_mapIdx, List.getElem?_mapIdx, List.getElem?_set]
    -- The place just written holds the value, whether or not it is written again.
    by_cases hi : t.placeOf c = i
    · subst hi
      rw [getElem?_placeOf hd hc]
      by_cases hlt : t.placeOf c < row.length
      · simp only [hlt, if_true, List.getElem?_eq_getElem, Option.map_some]
        by_cases hm : c ∈ columns <;> simp [hm, Option.filter]
      · simp [hlt]
    · rw [if_neg hi]
      cases hget : t.columns[i]? with
      | none => rfl
      | some c' =>
        have hne : c' ≠ c := by
          rintro rfl
          exact hi (placeOf_eq hd hget)
        simp [Option.filter, hne]

theorem mem_updateColumns : c ∈ t.updateColumns ↔ c ∈ t.columns ∧ t.isUpdated c = true :=
  List.mem_filter

theorem mem_insertColumns : c ∈ t.insertColumns ↔ c ∈ t.columns ∧ t.isIdentity c.property = false := by
  rw [insertColumns, List.mem_filter, Bool.not_eq_true']

theorem mem_columns_of_mem_keyColumns (hc : c ∈ t.keyColumns) : c ∈ t.columns := by
  obtain ⟨k, -, hk⟩ := List.mem_filterMap.1 hc
  exact List.mem_of_find?_eq_some hk

theorem isKey_of_mem_keyColumns (hc : c ∈ t.keyColumns) : t.isKey c.property = true := by
  obtain ⟨k, hmem, hk⟩ := List.mem_filterMap.1 hc
  have hprop : c.property = k := by simpa using List.find?_some hk
  rw [isKey, hprop]
  simpa using hmem

theorem keyColumns_ne_nil (h : t.Named) : t.keyColumns ≠ [] := by
  obtain ⟨k, ks, hk⟩ := List.exists_cons_of_ne_nil h.keyed
  have hmem : k ∈ t.keys := by
    rw [hk]
    exact List.mem_cons_self
  obtain ⟨c, hc⟩ := Option.isSome_iff_exists.1 (h.keysNamed k hmem)
  exact List.ne_nil_of_mem (List.mem_filterMap.2 ⟨k, hmem, hc⟩)

/-- Writing the update columns of a record leaves the row as `overwritten` says. -/
theorem written_updateColumns (hd : (t.columns.map (·.name)).Nodup) (source row : List Value) :
    t.written t.updateColumns (t.cell source) row = t.overwritten source row := by
  rw [written_eq_mapIdx hd fun c hc => (mem_updateColumns.1 hc).1]
  refine List.ext_getElem? fun i => ?_
  rw [overwritten, List.getElem?_mapIdx, List.getElem?_mapIdx]
  cases hget : t.columns[i]? with
  | none => rfl
  | some c =>
    have hplace := placeOf_eq hd hget
    have hc : c ∈ t.columns := List.mem_of_getElem? hget
    -- Within the update columns the cell of the record, outside of them the old value.
    by_cases hu : t.isUpdated c = true
    · simp [Option.filter, mem_updateColumns, hc, hu, cell, hplace]
    · simp [Option.filter, mem_updateColumns, hu]

theorem length_newRecords (next : Int) (sources : List (List Value)) :
    (t.newRecords next sources).length = sources.length :=
  List.length_mapIdx

theorem withUpdates_nil (rows : List (List Value)) : t.withUpdates [] rows = rows :=
  List.map_id rows

theorem withoutDeleted_nil (rows : List (List Value)) : t.withoutDeleted [] rows = rows :=
  List.filter_eq_self.2 fun _ _ => rfl

theorem countP_hasKeyIn_nil (rows : List (List Value)) : rows.countP (t.hasKeyIn []) = 0 :=
  List.countP_eq_zero.2 fun _ _ => Bool.false_ne_true

/-- A batch of inserts appends its new records. -/
theorem synced_inserts {changes : List (ItemChange (List Value))}
    (h : ∀ change ∈ changes, change.kind = .insert) (m : MemoryTable) :
    t.synced m changes =
      ({ inserted := changes.length },
        { m with
          rows := m.rows ++ t.newRecords m.nextIdentity (changes.map (·.item))
          nextIdentity := t.nextAfter m.nextIdentity changes.length }) := by
  -- No change is of another kind, and no row meets an empty list of records.
  have hnone {kind : ChangeKind} (hkind : kind ≠ .insert) : recordsOf kind changes = [] := by
    rw [recordsOf, List.map_eq_nil_iff, List.filter_eq_nil_iff]
    intro change hc heq
    rw [decide_eq_true_eq, h change hc] at heq
    exact hkind heq.symm
  have hall : recordsOf .insert changes = changes.map (·.item) := by
    rw [recordsOf, List.filter_eq_self.2 fun change hc => by rw [h change hc]; rfl]
  have hlength : (t.newRecords m.nextIdentity (changes.map (·.item))).length = changes.length := by
    rw [length_newRecords, List.length_map]
  rw [synced]
  simp only [hnone (by decide : ChangeKind.update ≠ .insert),
    hnone (by decide : ChangeKind.delete ≠ .insert), hall, hlength, withUpdates_nil,
    withoutDeleted_nil, countP_hasKeyIn_nil, ite_self]
  cases t.dialect <;> rfl

/-- Without update columns no row changes. -/
theorem withUpdates_of_isEmpty (h : t.updateColumns.isEmpty = true)
    (sources rows : List (List Value)) : t.withUpdates sources rows = rows := by
  have hnone : ∀ c ∈ t.columns, t.isUpdated c = false := by
    intro c hc
    by_contra hu
    have hm := mem_updateColumns.2 ⟨hc, by simpa using hu⟩
    rw [List.isEmpty_iff.1 h] at hm
    exact List.not_mem_nil hm
  have hover (source row : List Value) : t.overwritten source row = row := by
    refine List.ext_getElem? fun i => ?_
    rw [overwritten, List.getElem?_mapIdx]
    cases hget : t.columns[i]? with
    | none => simp
    | some c => simp [hnone c (List.mem_of_getElem? hget)]
  -- Rows without a record of their key stay anyway, the others are overwritten in no place.
  conv => rhs; rw [← List.map_id rows]
  refine List.map_congr_left fun row _ => ?_
  cases hf : sources.find? (t.sameKey row) <;> simp [hover]

/-- A column that no update writes keeps its values. -/
theorem cell_overwritten_of_isUpdated (hd : (t.columns.map (·.name)).Nodup) (source row : List Value)
    (hc : c ∈ t.columns) (hu : t.isUpdated c = false) :
    t.cell (t.overwritten source row) c = t.cell row c := by
  have hget := getElem?_placeOf hd hc
  rw [cell, cell, MemoryTable.valueAt, MemoryTable.valueAt, overwritten, List.getElem?_mapIdx, hget]
  simp [hu]

/-- The update columns are not part of the key. -/
theorem cell_overwritten (hd : (t.columns.map (·.name)).Nodup) (source row : List Value)
    (hc : c ∈ t.keyColumns) : t.cell (t.overwritten source row) c = t.cell row c := by
  have hu : t.isUpdated c = false := by simp [isUpdated, isKey_of_mem_keyColumns hc]
  exact cell_overwritten_of_isUpdated hd source row (mem_columns_of_mem_keyColumns hc) hu

theorem sameKey_overwritten (hd : (t.columns.map (·.name)).Nodup) (source row other : List Value) :
    t.sameKey (t.overwritten source row) other = t.sameKey row other := by
  rw [sameKey, sameKey, Bool.eq_iff_iff, List.all_eq_true, List.all_eq_true]
  refine forall₂_congr fun c hc => ?_
  rw [cell_overwritten hd source row hc]

end Table

end Tablewright
