import Mathlib.Data.List.Pairwise
import Tablewright.Memory.Statement
import Tablewright.Proofs.MemoryRecords

/-!
# Records with a key of their own

A table in memory whose records bring their keys along, so that a row is inserted or updated by its
key and read back under the names of its properties. The columns of a result have labels, which name
the properties up to letter case; as properties differ in more than that, each is read from the column
that stands for it.

## Key results

- `upsert_record`: an upsert updates the rows with the key of a record or inserts a new one
- `select_keyColumns`, `select_all`: a query reads the records with a key, or all of them
- `readValue_resultRow`: a record's result has a property's value under the name of the property
-/

namespace Tablewright

/-- The label of a column in a result: the name of its property, as the column writes it if only the
letter case differs. -/
def Column.label (c : Column) : String :=
  if Text.eqIgnoreAsciiCase c.name c.property then c.name else c.property

theorem Text.eqIgnoreAsciiCase_iff {a b : String} : eqIgnoreAsciiCase a b = true ↔
    a.toList.map Char.toLower = b.toList.map Char.toLower := by
  rw [eqIgnoreAsciiCase, beq_iff_eq]

namespace Table

/-- A table of records that bring their key along: all its names are plain, its columns stand for
properties that differ in more than letter case, the store assigns no part of the key, and an update has
a column to write. -/
structure RecordTable (t : Table) : Prop extends Named t where
  properties : ∀ c ∈ t.columns, isPlainName c.property = true
  apart : t.columns.Pairwise fun a b => Text.eqIgnoreAsciiCase a.property b.property = false
  keysGiven : ∀ k ∈ t.keys, t.isIdentity k = false
  updatable : t.updateColumns ≠ []

variable {t : Table} {c : Column}

/-- Whether a row has the values of a key, which come in the order of the key columns. -/
def hasKey (t : Table) (key row : List Value) : Bool :=
  (t.keyColumns.zip key).all fun (c, value) => (t.cell row c).sameKey value

/-- A record as a row of a result. -/
def resultRow (t : Table) (record : List Value) : Row where
  columns := t.columns.map Column.label
  values := t.columns.map (t.cell record)

/-! ## Properties -/

theorem label_property (c : Column) : Text.eqIgnoreAsciiCase c.label c.property = true := by
  rw [Column.label]
  split
  · assumption
  · exact Text.eqIgnoreAsciiCase_refl c.property

/-- A column is told from the others by its property, in whatever case this is written. -/
theorem RecordTable.eq_of_property (h : t.RecordTable) {c' : Column} (hc : c ∈ t.columns)
    (hc' : c' ∈ t.columns) (heq : Text.eqIgnoreAsciiCase c.property c'.property = true) : c = c' := by
  by_contra hne
  have hsymm : Std.Symm fun a b : Column => Text.eqIgnoreAsciiCase a.property b.property = false := by
    refine ⟨fun a b hab => ?_⟩
    rw [Bool.eq_false_iff] at hab ⊢
    exact fun hba => hab (Text.eqIgnoreAsciiCase_iff.2 (Text.eqIgnoreAsciiCase_iff.1 hba).symm)
  rw [h.apart.forall hc hc' hne] at heq
  exact Bool.false_ne_true heq

theorem RecordTable.column?_property (h : t.RecordTable) (hc : c ∈ t.columns) :
    t.column? c.property = some c := by
  have hsome : (t.column? c.property).isSome = true :=
    List.find?_isSome.2 ⟨c, hc, beq_self_eq_true _⟩
  obtain ⟨c', hc'⟩ := Option.isSome_iff_exists.1 hsome
  have hprop : c'.property = c.property := by simpa using List.find?_some hc'
  have heq : Text.eqIgnoreAsciiCase c'.property c.property = true := by
    rw [hprop]
    exact Text.eqIgnoreAsciiCase_refl _
  rw [hc', h.eq_of_property (List.mem_of_find?_eq_some hc') hc heq]

/-- The columns of the key are those whose properties belong to it. -/
theorem RecordTable.mem_keyColumns (h : t.RecordTable) (hc : c ∈ t.columns) :
    c ∈ t.keyColumns ↔ t.isKey c.property = true := by
  refine ⟨isKey_of_mem_keyColumns, fun hkey => List.mem_filterMap.2 ⟨c.property, ?_, ?_⟩⟩
  · rwa [isKey, List.contains_iff_mem] at hkey
  · exact h.column?_property hc

/-- An insert writes the whole key. -/
theorem RecordTable.mem_insertColumns_of_mem_keyColumns (h : t.RecordTable) (hc : c ∈ t.keyColumns) :
    c ∈ t.insertColumns := by
  have hkey := isKey_of_mem_keyColumns hc
  rw [isKey, List.contains_iff_mem] at hkey
  exact mem_insertColumns.2 ⟨mem_columns_of_mem_keyColumns hc, h.keysGiven _ hkey⟩

/-- Beside the key an insert writes what an update writes. -/
theorem RecordTable.filter_insertColumns (h : t.RecordTable) :
    (t.insertColumns.filter fun c => !(t.keyColumns.map (·.name)).contains c.name) =
      t.updateColumns := by
  rw [insertColumns, List.filter_filter, updateColumns]
  refine List.filter_congr fun c hc => ?_
  -- Columns are told apart by their names, so that the names of the key say what belongs to it.
  have hnames : (t.keyColumns.map (·.name)).contains c.name = t.isKey c.property := by
    rw [Bool.eq_iff_iff, List.contains_iff_mem, ← h.mem_keyColumns hc]
    refine ⟨fun hm => ?_, List.mem_map_of_mem⟩
    obtain ⟨c', hc', hname⟩ := List.mem_map.1 hm
    rwa [← eq_of_name_eq h.distinct (mem_columns_of_mem_keyColumns hc') hc hname]
  rw [hnames]

/-! ## Results -/

/-- The first label that a property matches is that of its column. -/
theorem RecordTable.position?_property (h : t.RecordTable) (record : List Value) (hc : c ∈ t.columns) :
    (t.resultRow record).position? c.property = some (t.placeOf c) := by
  rw [Row.position?, resultRow, List.findIdx?_eq_some_iff_getElem]
  have hlt := placeOf_lt hc
  refine ⟨by rwa [List.length_map], ?_, fun i hi => ?_⟩
  · have hget : t.columns[t.placeOf c] = c := by
      have hsome := getElem?_placeOf h.distinct hc
      rwa [List.getElem?_eq_getElem hlt, Option.some_inj] at hsome
    rw [List.getElem_map, hget]
    exact label_property c
  · -- A column in front of it with such a label would stand for the same property.
    intro hlabel
    have hilt := Nat.lt_trans hi hlt
    rw [List.getElem_map] at hlabel
    have hletters := (Text.eqIgnoreAsciiCase_iff.1 (label_property _)).symm.trans
      (Text.eqIgnoreAsciiCase_iff.1 hlabel)
    have heq := h.eq_of_property (List.getElem_mem hilt) hc (Text.eqIgnoreAsciiCase_iff.2 hletters)
    have hplace := placeOf_eq h.distinct (List.getElem?_eq_getElem hilt)
    rw [heq] at hplace
    omega

/-- A record's result has the value of a property under the name of the property. -/
theorem RecordTable.readValue_resultRow (h : t.RecordTable) (record : List Value)
    (hc : c ∈ t.columns) : (t.resultRow record).readValue c.property = .ok (t.cell record c) := by
  have hvalue : (t.resultRow record).values[t.placeOf c]? = some (t.cell record c) := by
    rw [resultRow, List.getElem?_map, getElem?_placeOf h.distinct hc, Option.map_some]
  rw [Row.readValue, h.position?_property record hc]
  simp only [hvalue]

end Table

namespace MemoryTable

variable {m : MemoryTable} {t : Table}

/-! ## Upserts -/

/-- The value of a column among those of an insert. -/
theorem namedValue_columns {columns : List Column} (hd : (columns.map (·.name)).Nodup)
    (value : Column → Value) {c : Column} (hc : c ∈ columns) :
    namedValue (columns.map (·.name)) (columns.map value) c.name = value c := by
  have hlt := List.idxOf_lt_length_of_mem (List.mem_map_of_mem (f := (·.name)) hc)
  have hfind : (columns.map (·.name)).findIdx? (· == c.name) =
      some ((columns.map (·.name)).idxOf c.name) :=
    List.findIdx?_eq_some_iff_findIdx_eq.2 ⟨hlt, rfl⟩
  have hcolumn : (columns.map (·.name)).idxOf c.name < columns.length := by
    rwa [List.length_map] at hlt
  -- The column at this place has the name, and no other one has it.
  have hget : columns[(columns.map (·.name)).idxOf c.name] = c := by
    have hname := List.getElem_idxOf hlt
    rw [List.getElem_map] at hname
    exact List.inj_on_of_nodup_map hd (List.getElem_mem hcolumn) hc hname
  simp only [namedValue, hfind, valueAt]
  rw [List.getElem?_map, List.getElem?_eq_getElem hcolumn, hget]
  rfl

/-- An upsert updates the rows with the key of a record, or it inserts a new record. -/
theorem upsert_record (h : t.RecordTable) (hm : m.Holds t)
    (hkeys : m.keys = t.keyColumns.map (·.name)) (source : List Value) :
    m.upsert (t.insertColumns.map (·.name)) (t.insertColumns.map (t.cell source)) =
      if m.rows.any (t.sameKey · source) then
        (m.rows.countP (t.sameKey · source), { m with rows := t.withUpdates [source] m.rows })
      else
        (1, { m with
          rows := m.rows ++ [t.newRecord m.nextIdentity source]
          nextIdentity := t.nextAfter m.nextIdentity 1 }) := by
  have hd : (t.insertColumns.map (·.name)).Nodup :=
    List.Nodup.sublist (List.Sublist.map _ List.filter_sublist) h.distinct
  have hkey : m.keys.map (namedValue (t.insertColumns.map (·.name))
      (t.insertColumns.map (t.cell source))) = t.keyColumns.map (t.cell source) := by
    rw [hkeys, List.map_map]
    exact List.map_congr_left fun c hc =>
      namedValue_columns hd (t.cell source) (h.mem_insertColumns_of_mem_keyColumns hc)
  have hothers : (((t.insertColumns.map (·.name)).zip (t.insertColumns.map (t.cell source))).filter
      fun p => !m.keys.contains p.1) = t.updateColumns.map fun c => (c.name, t.cell source c) := by
    rw [List.zip_map', List.filter_map, hkeys, ← h.filter_insertColumns]
    rfl
  have hmatches : m.rowMatches m.keys (t.keyColumns.map (t.cell source)) = (t.sameKey · source) := by
    rw [hkeys]
    exact funext (meets_keyColumns hm source)
  have hupdate := update_records h.distinct hm source
  rw [← hkeys] at hupdate
  rw [upsert, hkey, hmatches]
  -- One row or more with the key are updated; if there is none, the record is a new one.
  split
  · simp only [hothers, List.map_map]
    exact hupdate
  · rw [insert_record h.distinct hm]

/-! ## Queries -/

/-- The columns of a query, each with its label. -/
theorem select_columns (hm : m.Holds t) (keys : List String) (key : List Value) :
    m.select (t.columns.map fun c => (c.name, c.label)) keys key =
      (m.rows.filter (m.rowMatches keys key)).map t.resultRow := by
  rw [select]
  refine List.map_congr_left fun row _ => ?_
  rw [Table.resultRow, List.map_map, List.map_map, List.map_map, Row.mk.injEq]
  refine ⟨rfl, List.map_congr_left fun c hc => ?_⟩
  simp only [Function.comp_apply, position?_name hm hc, Option.map_some, Option.getD_some]
  rfl

theorem rowMatches_keyColumns (hm : m.Holds t) (key row : List Value) :
    m.rowMatches (t.keyColumns.map (·.name)) key row = t.hasKey key row := by
  rw [rowMatches, conditions, List.zip_map_left, List.map_map, meets, List.all_map, Table.hasKey,
    Bool.eq_iff_iff, List.all_eq_true, List.all_eq_true]
  refine forall₂_congr fun p hp => ?_
  obtain ⟨c, value⟩ := p
  have hc := Table.mem_columns_of_mem_keyColumns (List.of_mem_zip hp).1
  show (m.position? c.name).any _ = true ↔ _
  rw [position?_name hm hc]
  rfl

/-- A query for a key reads the records with the key. -/
theorem select_keyColumns (hm : m.Holds t) (key : List Value) :
    m.select (t.columns.map fun c => (c.name, c.label)) (t.keyColumns.map (·.name)) key =
      (m.rows.filter (t.hasKey key)).map t.resultRow := by
  rw [select_columns hm, funext (rowMatches_keyColumns hm key)]

/-- A query without a key reads all records. -/
theorem select_all (hm : m.Holds t) :
    m.select (t.columns.map fun c => (c.name, c.label)) [] [] = m.rows.map t.resultRow := by
  have hevery : m.rows.filter (m.rowMatches [] []) = m.rows := List.filter_eq_self.2 fun _ _ => rfl
  rw [select_columns hm, hevery]

end MemoryTable

end Tablewright
