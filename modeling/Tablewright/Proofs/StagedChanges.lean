import Mathlib.Data.List.Find
import Tablewright.Proofs.Parentheses
import Tablewright.Proofs.Runs
import Tablewright.Proofs.StagedReading

/-!
# Applying staged rows

The parts of an apply script on a table and its staging table: the insert adds new records, the update
overwrites rows by the first record with their key, the deletion removes rows by their keys. The
staging table holds the changes of a batch, each with its kind.

## Key results

- `filter_isStaged`: the staged rows of a kind are the records of that kind
- `readStagedInsert_records`: the insert copies the records to insert
- `stagedUpdate_records`, `stagedDelete_records`: the joins reach the rows by their whole keys
-/

namespace Tablewright

open Sql

/-- Each change of a batch has a value for each column. -/
def FitsColumns (t : Table) (changes : List (ItemChange (List Value))) : Prop :=
  ∀ change ∈ changes, change.item.length = t.columns.length

namespace MemoryStore

variable {s : MemoryStore} {t : Table} {changes : List (ItemChange (List Value))}

/-! ## Staged rows as records -/

/-- The value that marks the kind in a staged row. -/
def tagValue (kind : ChangeKind) : Value :=
  .int16 (Int16.ofNat kind.tag)

theorem isStaged_stagedRow {change : ItemChange (List Value)}
    (hlen : change.item.length = t.columns.length) (kind : ChangeKind) :
    isStaged t kind (stagedRow change) = decide (change.kind = kind) := by
  have hvalue : MemoryTable.valueAt (stagedRow change) t.columns.length = tagValue change.kind := by
    rw [MemoryTable.valueAt, stagedRow, ← hlen, List.getElem?_concat_length]
    rfl
  rw [isStaged, hvalue]
  cases change.kind <;> cases kind <;> decide

/-- The staged rows of a kind are the records of that kind, each with its mark. -/
theorem filter_isStaged (hfit : FitsColumns t changes) (kind : ChangeKind) :
    (changes.map stagedRow).filter (isStaged t kind) =
      (recordsOf kind changes).map (· ++ [tagValue kind]) := by
  rw [recordsOf, List.filter_map, List.map_map]
  have hfilter : changes.filter (isStaged t kind ∘ stagedRow) = changes.filter (·.kind = kind) :=
    List.filter_congr fun change hc => isStaged_stagedRow (hfit change hc) kind
  rw [hfilter]
  refine List.map_congr_left fun change hc => ?_
  have hkind : change.kind = kind := by simpa using (List.mem_filter.1 hc).2
  rw [stagedRow, hkind]
  rfl

theorem length_of_mem_recordsOf (hfit : FitsColumns t changes) {kind : ChangeKind}
    {record : List Value} (h : record ∈ recordsOf kind changes) :
    record.length = t.columns.length := by
  obtain ⟨change, hc, rfl⟩ := List.mem_map.1 h
  exact hfit change (List.mem_filter.1 hc).1

/-- The mark stands behind the values of the columns. -/
theorem cell_append {record : List Value} (hlen : record.length = t.columns.length) (v : Value)
    {c : Column} (hc : c ∈ t.columns) : t.cell (record ++ [v]) c = t.cell record c := by
  have hlt := Table.placeOf_lt hc
  rw [Table.cell, Table.cell, MemoryTable.valueAt, MemoryTable.valueAt,
    List.getElem?_append_left (by omega)]

theorem joined_keyJoins {record : List Value} (hlen : record.length = t.columns.length) (v : Value)
    (row : List Value) : joined t.keyJoins row (record ++ [v]) = t.sameKey row record := by
  rw [joined, Table.keyJoins, List.all_map, Table.sameKey, Bool.eq_iff_iff, List.all_eq_true,
    List.all_eq_true]
  refine forall₂_congr fun c hc => ?_
  rw [← cell_append hlen v (Table.mem_columns_of_mem_keyColumns hc)]
  rfl

/-! ## Updates -/

/-- The pairs of places that an update's settings join. -/
def settingPlaces (t : Table) : List (Nat × Nat) :=
  t.updateColumns.map fun c => (t.placeOf c, t.placeOf c)

theorem updateRow_records (hp : t.Plain) {records : List (List Value)}
    (hlen : ∀ record ∈ records, record.length = t.columns.length) (v : Value) (row : List Value) :
    updateRow t.keyJoins (settingPlaces t) (records.map (· ++ [v])) row =
      (records.find? (t.sameKey row)).map (t.overwritten · row) := by
  -- The staged rows are the records with the kind behind them, where no key column reads.
  have hfind : records.find? (joined t.keyJoins row ∘ (· ++ [v])) = records.find? (t.sameKey row) :=
    List.find?_congr fun record hr => joined_keyJoins (hlen record hr) v row
  rw [updateRow, List.find?_map, hfind, Option.map_map]
  cases hr : records.find? (t.sameKey row) with
  | none => rfl
  | some record =>
    have hmem := hlen record (List.mem_of_find?_eq_some hr)
    rw [Option.map_some, Option.map_some, Function.comp_apply, settingPlaces, List.foldl_map,
      ← Table.written_updateColumns hp.distinct]
    refine congrArg some (List.foldl_ext _ _ _ fun row c hc => ?_)
    rw [← cell_append hmem v (Table.mem_updateColumns.1 hc).1]
    rfl

/-- The update overwrites rows by the first record with their key and counts them. -/
theorem stagedUpdate_records (hp : t.Plain) (hfit : FitsColumns t changes)
    {staging : String} {settings conditions : List Char}
    (hset : (Text.split ", ".toList settings).mapM (s.readAssignment staging) =
      .ok (settingPlaces t))
    (hsel : s.select staging conditions =
      .ok ⟨t.keyJoins, (changes.map stagedRow).filter (isStaged t .update)⟩) :
    s.stagedUpdate staging settings conditions =
      .ok (s.table.rows.countP (t.hasKeyIn (recordsOf .update changes)),
        { s with table := { s.table with
            rows := t.withUpdates (recordsOf .update changes) s.table.rows } }) := by
  have hlen : ∀ record ∈ recordsOf .update changes, record.length = t.columns.length :=
    fun _ => length_of_mem_recordsOf hfit
  have hrow := updateRow_records hp hlen (tagValue .update)
  simp only [stagedUpdate, hset, hsel, filter_isStaged hfit, funext hrow, bind, Except.bind]
  show Except.ok (_, _) = _
  -- A row is counted where a record is found for it, and stays as it is elsewhere.
  congr 2
  · rw [List.countP_map]
    refine List.countP_congr fun row _ => ?_
    simp [Table.hasKeyIn, List.find?_isSome]
  · rw [List.zipWith_map_right, List.zipWith_self]
    rfl

/-! ## Deletions -/

/-- The deletion removes rows by their keys and counts them. -/
theorem stagedDelete_records (hfit : FitsColumns t changes)
    {staging : String} {conditions : List Char}
    (hsel : s.select staging conditions =
      .ok ⟨t.keyJoins, (changes.map stagedRow).filter (isStaged t .delete)⟩) :
    s.stagedDelete staging conditions =
      .ok (s.table.rows.countP (t.hasKeyIn (recordsOf .delete changes)),
        { s with table := { s.table with
            rows := t.withoutDeleted (recordsOf .delete changes) s.table.rows } }) := by
  -- The kind behind a record is no key column and does not keep it from its rows.
  have hgone (row : List Value) : ((recordsOf .delete changes).map (· ++ [tagValue .delete])).any
      (joined t.keyJoins row) = t.hasKeyIn (recordsOf .delete changes) row := by
    rw [List.any_map, Table.hasKeyIn, Bool.eq_iff_iff, List.any_eq_true, List.any_eq_true]
    refine exists_congr fun record => and_congr_right fun hr => ?_
    rw [Function.comp_apply, joined_keyJoins (length_of_mem_recordsOf hfit hr)]
  simp only [stagedDelete, hsel, filter_isStaged hfit, bind, Except.bind, hgone]
  rfl

/-! ## Inserts -/

/-- The text of an apply script's insert behind the name of the table. -/
def insertSource (t : Table) : List Char :=
  '(' :: ((Table.columnList t.insertColumns).chars t.dialect ++ ')' :: (" SELECT ".toList ++
    ((Table.columnListOf "s" t.insertColumns).chars t.dialect ++ " FROM ".toList ++
      (t.stagingText.toList ++ " AS s WHERE ".toList ++
        (Table.changeFilter .insert).chars t.dialect))))

theorem notMem_columnList {x : Char} (hp : t.Named) {columns : List Column}
    (hsub : ∀ c ∈ columns, c ∈ t.columns) (hx : isSeparator [x] = true) (hbetween : x ∉ ", ".toList) :
    x ∉ (Table.columnList columns).chars t.dialect := by
  rw [chars_columnList]
  exact notMem_listed (simple_columns hp hsub) hx List.not_mem_nil hbetween
    fun _ _ => List.not_mem_nil

theorem balanced_columnList (hp : t.Named) {columns : List Column}
    (hsub : ∀ c ∈ columns, c ∈ t.columns) :
    Balanced ((Table.columnList columns).chars t.dialect) :=
  balanced_of_notMem (notMem_columnList hp hsub (by decide) (by decide))
    (notMem_columnList hp hsub (by decide) (by decide))

theorem clear_stagingText (hp : t.Plain) {sep : List Char} (hsep : isSeparator sep = true) :
    Text.Clear sep t.stagingText.toList :=
  clear_quote t.dialect hsep (isSimpleName_stagingName t.dialect hp.name)

/-- The insert names its columns and copies the records to insert. -/
theorem readStagedInsert_records (hp : t.Plain) (hfit : FitsColumns t changes) (hs : s.Serves t)
    (hst : s.staging.lookup t.stagingText = some ⟨t.stagingColumns, changes.map stagedRow⟩) :
    s.readStagedInsert (insertSource t) =
      .ok (t.insertColumns.map (·.name),
        (recordsOf .insert changes).map fun record => t.insertColumns.map (t.cell record)) := by
  have hsub : ∀ c ∈ t.insertColumns, c ∈ t.columns := fun c hc => (Table.mem_insertColumns.1 hc).1
  have hparen := parenthesized_balanced (balanced_columnList hp.named hsub) (" SELECT ".toList ++
    ((Table.columnListOf "s" t.insertColumns).chars t.dialect ++ " FROM ".toList ++
      (t.stagingText.toList ++ " AS s WHERE ".toList ++
        (Table.changeFilter .insert).chars t.dialect)))
  have hnames := namesIn_columnList t.dialect t.insertColumns
  have htargets : (t.insertColumns.map (·.name)).mapM s.targetColumn =
      .ok (t.insertColumns.map t.placeOf) :=
    mapM_map_ok fun c hc => targetColumn_name hs (hsub c hc)
  -- The query behind the columns falls apart at its keywords.
  have hselect (rest : List Char) :
      Text.after? "SELECT ".toList (Text.trimStart (" SELECT ".toList ++ rest)) = some rest :=
    Text.after?_append "SELECT ".toList rest
  have hpicks : Text.Clear " FROM ".toList ((Table.columnListOf "s" t.insertColumns).chars t.dialect) := by
    rw [chars_columnListOf]
    exact clear_listed (by decide) (simple_columns hp.named hsub) (by decide) (by decide)
      fun _ _ => Text.clear_nil
  have hfrom := Text.cut?_clear hpicks (t.stagingText.toList ++ " AS s WHERE ".toList ++
    (Table.changeFilter .insert).chars t.dialect)
  have hwhere := Text.cut?_clear (clear_stagingText hp (by decide : isSeparator " AS s WHERE ".toList = true))
    ((Table.changeFilter .insert).chars t.dialect)
  have hreads := readPicks hp hs hst
  have hsel := select_kind hp hs hst .insert
  -- As many columns are picked as are named, so that the lists fit.
  simp only [readStagedInsert, insertSource, hparen, hs.dialect, hnames, bind, Except.bind, htargets,
    hselect, readOr, hfrom, hwhere, String.ofList_toList, hreads, List.length_map, ne_eq,
    not_true_eq_false, if_false, hsel, filter_isStaged hfit]
  show Except.ok (_, _) = _
  congr 2
  rw [List.map_map]
  refine List.map_congr_left fun record hr => ?_
  rw [Function.comp_apply, List.map_map]
  exact List.map_congr_left fun c hc => cell_append (length_of_mem_recordsOf hfit hr) _ (hsub c hc)

/-- The insert makes new records that the table does not hold yet. -/
theorem run_newStagedRows (hp : t.Plain) (hfit : FitsColumns t changes) (hs : s.Serves t)
    (hst : s.staging.lookup t.stagingText = some ⟨t.stagingColumns, changes.map stagedRow⟩) :
    (newStagedRows (insertSource t)).run s =
      (.ok (t.newRecords s.table.nextIdentity (recordsOf .insert changes)),
        { s with table := { s.table with
            nextIdentity := t.nextAfter s.table.nextIdentity (recordsOf .insert changes).length } }) := by
  have hread := readStagedInsert_records hp hfit hs hst
  have hrows := MemoryTable.newRows_insertColumns hp.distinct hs.table (recordsOf .insert changes)
  rw [newStagedRows, run_bind_ok (run_get s), run_bind_ok (run_ofExcept_ok hread s)]
  simp only [hrows]
  rfl

end MemoryStore

end Tablewright
