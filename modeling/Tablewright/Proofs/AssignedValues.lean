import Mathlib.Data.Int.Range
import Mathlib.Data.List.Nodup
import Tablewright.Memory.Statement
import Tablewright.Proofs.MemoryRecords

/-!
# Values that the store assigns

The integers in the column that the store assigns, row by row, and the counter from which they come.
Whatever an operation does to a table, each row that is left holds the integer that it held before or
one that the counter has passed meanwhile: new rows take the next values, updates write other columns,
and removals do not set the counter back.

## Key results

- `Advances.trans`: what becomes of a table over many steps is what becomes of it in one
- `advances_upsert`, `advances_synced`: an upsert by any keys, and a whole batch of changes
- `Identified.advances`: rows with integers of their own below the counter stay so
-/

namespace Tablewright

open scoped List

/-- Integers of no kind go below those of 64 bits. -/
theorem Value.le_of_toInt? {v : Value} {n : Int} (h : v.toInt? = some n) : -twoTo 63 ≤ n := by
  have hbound : twoTo 63 = 9223372036854775808 := by decide
  cases v with
  | int16 k =>
    obtain rfl := Option.some.inj h
    have hk := k.le_toInt
    omega
  | int32 k =>
    obtain rfl := Option.some.inj h
    have hk := k.le_toInt
    omega
  | int64 k =>
    obtain rfl := Option.some.inj h
    have hk := k.le_toInt
    omega
  | _ => cases h

/-- A range of integers is its first part and then the rest. -/
theorem range_append_range {a b c : Int} (hab : a ≤ b) (hbc : b ≤ c) :
    Int.range a b ++ Int.range b c = Int.range a c := by
  have hlength : (c - a).toNat = (b - a).toNat + (c - b).toNat := by omega
  rw [Int.range, Int.range, Int.range, hlength, List.range_add, List.map_append, List.append_right_inj,
    List.map_map]
  refine List.map_congr_left fun k _ => ?_
  rw [Function.comp_apply]
  omega

namespace MemoryTable

/-! ## Identities and the counter -/

/-- The integer that a row holds in the column that the store assigns. -/
def identityOf (m : MemoryTable) (row : List Value) : Option Int :=
  m.identityPosition?.bind fun i => (valueAt row i).toInt?

/-- The integers in the column that the store assigns, row by row. -/
def identities (m : MemoryTable) : List (Option Int) :=
  m.rows.map m.identityOf

/-- The values that the store assigns from where its counter stands to where that of a later table
stands. -/
def assignedUntil (m later : MemoryTable) : List (Option Int) :=
  (Int.range m.nextIdentity later.nextIdentity).map some

/-- Each row holds an integer of its own, and the counter stands above all of them. -/
structure Identified (m : MemoryTable) : Prop where
  distinct : m.identities.Nodup
  below : ∀ identity ∈ m.identities, ∃ n, identity = some n ∧ n < m.nextIdentity

/-- What becomes of a table on the way to a later one. Its columns stay, and its counter does not go
back. As long as the counter is a number of 64 bits, each row of the later table holds an integer that
a row held before, or one that the store assigned on the way, and no integer is used twice. Where no row
may be removed, all rows are still in their places with the integers that they had. -/
structure Advances (removing : Bool) (m later : MemoryTable) : Prop where
  name : later.name = m.name
  columns : later.columns = m.columns
  identity : later.identity = m.identity
  counter : m.nextIdentity ≤ later.nextIdentity
  identities : -twoTo 63 ≤ m.nextIdentity → later.nextIdentity < twoTo 63 →
    later.identities <+ m.identities ++ m.assignedUntil later
  keeps : removing = false → m.identities <+: later.identities

variable {m m₁ m₂ : MemoryTable} {removing : Bool} {t : Table} {column : Column} {i : Nat}

theorem mem_assignedUntil {identity : Option Int} : identity ∈ m.assignedUntil m₁ ↔
    ∃ n, identity = some n ∧ m.nextIdentity ≤ n ∧ n < m₁.nextIdentity := by
  rw [assignedUntil, List.mem_map]
  refine exists_congr fun n => ?_
  rw [Int.mem_range_iff, and_comm, eq_comm]

theorem nodup_assignedUntil (m m₁ : MemoryTable) : (m.assignedUntil m₁).Nodup := by
  have hrange : (Int.range m.nextIdentity m₁.nextIdentity).Nodup :=
    List.nodup_range.map fun a b hab => by
      have hsum : m.nextIdentity + a = m.nextIdentity + b := hab
      omega
  exact hrange.map fun a b => Option.some.inj

/-- What is assigned on a way is assigned on its first part and then on the rest. -/
theorem assignedUntil_append (h : m.nextIdentity ≤ m₁.nextIdentity)
    (h₁ : m₁.nextIdentity ≤ m₂.nextIdentity) :
    m.assignedUntil m₁ ++ m₁.assignedUntil m₂ = m.assignedUntil m₂ := by
  rw [assignedUntil, assignedUntil, assignedUntil, ← List.map_append, range_append_range h h₁]

/-! ## Ways from one table to a later one -/

theorem Advances.refl (m : MemoryTable) : Advances removing m m where
  name := rfl
  columns := rfl
  identity := rfl
  counter := Int.le_refl _
  identities _ _ := List.sublist_append_left _ _
  keeps _ := List.prefix_refl _

theorem Advances.trans (h : Advances removing m m₁) (h₁ : Advances removing m₁ m₂) :
    Advances removing m m₂ where
  name := h₁.name.trans h.name
  columns := h₁.columns.trans h.columns
  identity := h₁.identity.trans h.identity
  counter := h.counter.trans h₁.counter
  identities hlow hhigh := by
    -- The counter in the middle lies between those at both ends.
    have hfirst := h.identities hlow (h₁.counter.trans_lt hhigh)
    have hsecond := h₁.identities (hlow.trans h.counter) hhigh
    have hboth := hsecond.trans (hfirst.append_right _)
    rwa [List.append_assoc, assignedUntil_append h.counter h₁.counter] at hboth
  keeps hkeep := (h.keeps hkeep).trans (h₁.keeps hkeep)

/-- Where rows may be removed less is said. -/
theorem Advances.mono (h : Advances removing m m₁) {other : Bool}
    (hother : other = false → removing = false) : Advances other m m₁ where
  name := h.name
  columns := h.columns
  identity := h.identity
  counter := h.counter
  identities := h.identities
  keeps hkeep := h.keeps (hother hkeep)

theorem Advances.holds (h : Advances removing m m₁) (hm : m.Holds t) : m₁.Holds t :=
  ⟨h.name.trans hm.name, h.columns.trans hm.columns, h.identity.trans hm.identity⟩

/-- What rows hold stands below the counter, what is assigned from now on does not. -/
theorem Identified.nodup_assignedUntil (hm : m.Identified) (m₁ : MemoryTable) :
    (m.identities ++ m.assignedUntil m₁).Nodup := by
  refine List.nodup_append'.2 ⟨hm.distinct, m.nodup_assignedUntil m₁, fun identity hold hnew => ?_⟩
  obtain ⟨n, rfl, hn⟩ := hm.below identity hold
  obtain ⟨n', heq, hle, -⟩ := mem_assignedUntil.1 hnew
  obtain rfl := Option.some.inj heq
  omega

/-- Rows with integers of their own below the counter stay so. -/
theorem Identified.advances (hm : m.Identified) (h : Advances removing m m₁)
    (hlow : -twoTo 63 ≤ m.nextIdentity) (hhigh : m₁.nextIdentity < twoTo 63) : m₁.Identified := by
  have hsub := h.identities hlow hhigh
  refine ⟨hsub.nodup (hm.nodup_assignedUntil m₁), fun identity hmem => ?_⟩
  rcases List.mem_append.1 (hsub.subset hmem) with hold | hnew
  · obtain ⟨n, hn, hlt⟩ := hm.below identity hold
    exact ⟨n, hn, hlt.trans_le h.counter⟩
  · obtain ⟨n, hn, -, hlt⟩ := mem_assignedUntil.1 hnew
    exact ⟨n, hn, hlt⟩

/-- An integer that no row holds any more comes back to none, for the counter has passed it. -/
theorem Advances.notMem (h : Advances removing m m₁) (hlow : -twoTo 63 ≤ m.nextIdentity)
    (hhigh : m₁.nextIdentity < twoTo 63) {n : Int} (hn : n < m.nextIdentity)
    (hgone : some n ∉ m.identities) : some n ∉ m₁.identities := by
  intro hmem
  rcases List.mem_append.1 ((h.identities hlow hhigh).subset hmem) with hold | hnew
  · exact hgone hold
  · obtain ⟨n', heq, hle, -⟩ := mem_assignedUntil.1 hnew
    obtain rfl := Option.some.inj heq
    omega

/-! ## Rows changed, removed and added -/

theorem advances_rows {rows : List (List Value)}
    (h : rows.map m.identityOf = m.rows.map m.identityOf) :
    Advances removing m { m with rows := rows } where
  name := rfl
  columns := rfl
  identity := rfl
  counter := Int.le_refl _
  identities _ _ := by
    show rows.map m.identityOf <+ _
    rw [h]
    exact List.sublist_append_left _ _
  keeps _ := by
    show _ <+: rows.map m.identityOf
    rw [h]
    exact List.prefix_refl _

theorem advances_removal {rows : List (List Value)} (h : rows <+ m.rows) :
    Advances true m { m with rows := rows } where
  name := rfl
  columns := rfl
  identity := rfl
  counter := Int.le_refl _
  identities _ _ := (h.map m.identityOf).trans (List.sublist_append_left _ _)
  keeps htrue := Bool.noConfusion htrue

theorem identityOf_eq (hm : m.Holds t) (hcolumn : t.identityColumn? = some column)
    (row : List Value) : m.identityOf row = (t.cell row column).toInt? := by
  rw [identityOf, identityPosition?_eq hm, hcolumn]
  rfl

theorem cell_newRecord (hd : (t.columns.map (·.name)).Nodup)
    (hcolumn : t.identityColumn? = some column) (next : Int) (source : List Value) :
    t.cell (t.newRecord next source) column = .int64 (Int64.ofInt next) := by
  have hget := Table.getElem?_placeOf hd (mem_of_identityColumn? hcolumn).1
  rw [Table.cell, valueAt, Table.newRecord, List.getElem?_mapIdx, hget]
  simp [hcolumn]

/-- New records hold the values that the store assigns next, one after the other. -/
theorem advances_newRecords (hd : (t.columns.map (·.name)).Nodup) (hm : m.Holds t)
    (hcolumn : t.identityColumn? = some column) (sources : List (List Value)) :
    Advances removing m
      { m with
        rows := m.rows ++ t.newRecords m.nextIdentity sources
        nextIdentity := t.nextAfter m.nextIdentity sources.length } := by
  have hnext : t.nextAfter m.nextIdentity sources.length = m.nextIdentity + sources.length := by
    rw [Table.nextAfter, hcolumn]
    rfl
  have hidentities : (m.rows ++ t.newRecords m.nextIdentity sources).map m.identityOf =
      m.identities ++ (t.newRecords m.nextIdentity sources).map m.identityOf := List.map_append
  rw [hnext]
  refine ⟨rfl, rfl, rfl, ?_, fun hlow hhigh => ?_, fun _ => ?_⟩
  · show m.nextIdentity ≤ m.nextIdentity + sources.length
    omega
  · have hbound : twoTo 63 = 9223372036854775808 := by decide
    have hhigh : m.nextIdentity + sources.length < twoTo 63 := hhigh
    have hlength : (m.nextIdentity + sources.length - m.nextIdentity).toNat = sources.length := by omega
    have hnew : (t.newRecords m.nextIdentity sources).map m.identityOf =
        (Int.range m.nextIdentity (m.nextIdentity + sources.length)).map some := by
      rw [Int.range, hlength]
      refine List.ext_getElem (by simp [Table.newRecords]) fun k hk _ => ?_
      simp only [Table.newRecords, List.length_map, List.length_mapIdx] at hk
      simp only [Table.newRecords, List.getElem_map, List.getElem_mapIdx, List.getElem_range,
        identityOf_eq hm hcolumn, cell_newRecord hd hcolumn]
      exact congrArg some (Int64.toInt_ofInt_of_le (by omega) (by omega))
    show (m.rows ++ t.newRecords m.nextIdentity sources).map m.identityOf <+ _
    rw [hidentities, hnew]
    exact List.Sublist.refl _
  · show _ <+: (m.rows ++ t.newRecords m.nextIdentity sources).map m.identityOf
    rw [hidentities]
    exact List.prefix_append _ _

theorem isUpdated_identityColumn (hcolumn : t.identityColumn? = some column) :
    t.isUpdated column = false := by
  rw [Table.isUpdated, (mem_of_identityColumn? hcolumn).2, Bool.not_true, Bool.and_false]

/-- Updates of records write other columns. -/
theorem advances_withUpdates (hd : (t.columns.map (·.name)).Nodup) (hm : m.Holds t)
    (hcolumn : t.identityColumn? = some column) (sources : List (List Value)) :
    Advances removing m { m with rows := t.withUpdates sources m.rows } := by
  refine advances_rows ?_
  rw [Table.withUpdates, List.map_map]
  refine List.map_congr_left fun row _ => ?_
  rw [Function.comp_apply, identityOf_eq hm hcolumn, identityOf_eq hm hcolumn]
  cases sources.find? (t.sameKey row) with
  | none => rfl
  | some source =>
    rw [Option.map_some, Option.getD_some, Table.cell_overwritten_of_isUpdated hd source row
      (mem_of_identityColumn? hcolumn).1 (isUpdated_identityColumn hcolumn)]

/-- Without the records of removals no row is removed. -/
theorem advances_withoutDeleted {sources : List (List Value)} (h : removing = false → sources = []) :
    Advances removing m { m with rows := t.withoutDeleted sources m.rows } := by
  cases removing with
  | true => exact advances_removal List.filter_sublist
  | false =>
    rw [h rfl, Table.withoutDeleted_nil]
    exact .refl m

/-! ## The operations of the table -/

/-- A batch inserts records, updates and removes rows, in an order that the dialect has. -/
theorem advances_synced (hd : (t.columns.map (·.name)).Nodup) (hm : m.Holds t)
    (hcolumn : t.identityColumn? = some column) {changes : List (ItemChange (List Value))}
    (h : removing = false → recordsOf .delete changes = []) :
    Advances removing m (t.synced m changes).2 := by
  have hlength := Table.length_newRecords (t := t) m.nextIdentity (recordsOf .insert changes)
  rw [Table.synced]
  simp only [hlength]
  cases t.dialect with
  | sqlServer =>
    have hinserted : m.Advances removing _ :=
      advances_newRecords hd hm hcolumn (recordsOf .insert changes)
    have hupdated := hinserted.trans
      (advances_withUpdates hd (hinserted.holds hm) hcolumn (recordsOf .update changes))
    exact hupdated.trans (advances_withoutDeleted h)
  | postgres =>
    have hupdated : m.Advances removing _ :=
      advances_withUpdates hd hm hcolumn (recordsOf .update changes)
    have hdeleted := hupdated.trans (advances_withoutDeleted (t := t) h)
    exact hdeleted.trans (advances_newRecords hd (hdeleted.holds hm) hcolumn _)

theorem advances_delete (m : MemoryTable) (keys : List String) (keyValues : List Value) :
    Advances true m (m.delete keys keyValues).2 :=
  advances_removal List.filter_sublist

theorem advances_truncate (m : MemoryTable) : Advances true m m.truncate :=
  advances_removal (List.nil_sublist _)

/-- Setting other columns leaves the value at a position. -/
theorem valueAt_assign {names : List String} (h : ∀ name ∈ names, m.position? name ≠ some i)
    (values : List Value) (row : List Value) :
    valueAt (m.assign names values row) i = valueAt row i := by
  induction names generalizing values row with
  | nil => rfl
  | cons name names ih =>
    cases values with
    | nil => rfl
    | cons value values =>
      have hrest := ih (fun name hname => h name (List.mem_cons_of_mem _ hname)) values
      refine (hrest _).trans ?_
      cases hposition : m.position? name with
      | none => simp only [hposition]
      | some j =>
        have hne : j ≠ i := fun heq => h name List.mem_cons_self (heq ▸ hposition)
        simp only [hposition, valueAt, List.getElem?_set_ne hne]

theorem advances_update (hi : m.identityPosition? = some i) {names : List String}
    (h : ∀ name ∈ names, m.position? name ≠ some i) (keys : List String)
    (keyValues values : List Value) :
    Advances removing m (m.update keys keyValues names values).2 := by
  refine advances_rows ?_
  rw [List.map_map]
  refine List.map_congr_left fun row _ => ?_
  rw [Function.comp_apply, identityOf, identityOf, hi, Option.bind_some, Option.bind_some]
  split
  · rw [valueAt_assign h]
  · rfl

/-- The columns of an insert stand in other places than the one that the store assigns. -/
theorem position?_insertColumns (hd : (t.columns.map (·.name)).Nodup) (hm : m.Holds t)
    (hcolumn : t.identityColumn? = some column) :
    ∀ name ∈ t.insertColumns.map (·.name), m.position? name ≠ some (t.placeOf column) := by
  intro name hname heq
  obtain ⟨c, hc, rfl⟩ := List.mem_map.1 hname
  obtain ⟨hmem, hnot⟩ := Table.mem_insertColumns.1 hc
  obtain ⟨hassigned, hid⟩ := mem_of_identityColumn? hcolumn
  rw [position?_name hm hmem, Option.some_inj] at heq
  have hget := Table.getElem?_placeOf hd hmem
  rw [heq, Table.getElem?_placeOf hd hassigned, Option.some_inj] at hget
  rw [hget, hnot] at hid
  exact Bool.false_ne_true hid

/-- An upsert by whatever keys writes no column that the store assigns. -/
theorem advances_upsert (hd : (t.columns.map (·.name)).Nodup) (hm : m.Holds t)
    (hcolumn : t.identityColumn? = some column) (source : List Value) :
    Advances removing m
      (m.upsert (t.insertColumns.map (·.name)) (t.insertColumns.map (t.cell source))).2 := by
  have hposition : m.identityPosition? = some (t.placeOf column) := by
    rw [identityPosition?_eq hm, hcolumn, Option.map_some]
  have hother := position?_insertColumns hd hm hcolumn
  rw [upsert]
  split
  · refine advances_update hposition (fun name hname => ?_) _ _ _
    obtain ⟨⟨other, value⟩, hpair, rfl⟩ := List.mem_map.1 hname
    exact hother _ (List.of_mem_zip (List.mem_of_mem_filter hpair)).1
  · have hinserted : m.Advances removing _ := advances_newRecords hd hm hcolumn [source]
    rwa [newRecords_cons, Table.newRecords, List.mapIdx_nil, List.length_singleton,
      ← insert_record hd hm] at hinserted

/-! ## Seeded tables -/

theorem Holds.seeded (hm : m.Holds t) (rows : List (List Value)) : (m.withRows rows).Holds t := by
  rw [MemoryTable.withRows]
  split
  · exact hm.withRows rows m.nextIdentity
  · exact hm.withRows rows _

/-- A table that is given rows with integers of their own assigns above all of them. -/
theorem identified_withRows (hi : m.identityPosition? = some i) {rows : List (List Value)}
    (hdistinct : (m.withRows rows).identities.Nodup) (hintegers : none ∉ (m.withRows rows).identities) :
    (m.withRows rows).Identified ∧ -twoTo 63 ≤ (m.withRows rows).nextIdentity := by
  have hseeded : m.withRows rows = { m with
      rows := rows
      nextIdentity := (((rows.filterMap fun row => (valueAt row i).toInt?).max?).map (· + 1)).getD 1 } := by
    rw [withRows, hi]
  have hidentityOf (row : List Value) : m.identityOf row = (valueAt row i).toInt? := by
    rw [identityOf, hi, Option.bind_some]
  have hlow : ∀ n ∈ rows.filterMap fun row => (valueAt row i).toInt?, -twoTo 63 ≤ n := by
    intro n hn
    obtain ⟨row, -, hrow⟩ := List.mem_filterMap.1 hn
    exact Value.le_of_toInt? hrow
  have hseed {identity : Option Int} (h : identity ∈ (m.withRows rows).identities) :
      ∃ n, identity = some n ∧ n ∈ rows.filterMap fun row => (valueAt row i).toInt? := by
    rw [hseeded] at h hintegers
    cases identity with
    | none => exact absurd h hintegers
    | some n =>
      obtain ⟨row, hrow, heq⟩ := List.mem_map.1 h
      exact ⟨n, rfl, List.mem_filterMap.2 ⟨row, hrow, (hidentityOf row).symm.trans heq⟩⟩
  have hnext : (m.withRows rows).nextIdentity =
      (((rows.filterMap fun row => (valueAt row i).toInt?).max?).map (· + 1)).getD 1 := by rw [hseeded]
  rw [hnext]
  cases hmax : (rows.filterMap fun row => (valueAt row i).toInt?).max? with
  | none =>
    rw [List.max?_eq_none_iff] at hmax
    refine ⟨⟨hdistinct, fun identity h => ?_⟩, by decide⟩
    obtain ⟨n, -, hn⟩ := hseed h
    rw [hmax] at hn
    exact absurd hn List.not_mem_nil
  | some greatest =>
    obtain ⟨hmem, hgreatest⟩ := List.max?_eq_some_iff.1 hmax
    have hle := hlow greatest hmem
    rw [Option.map_some, Option.getD_some]
    refine ⟨⟨hdistinct, fun identity h => ?_⟩, by omega⟩
    obtain ⟨n, rfl, hn⟩ := hseed h
    have hn := hgreatest n hn
    rw [hnext, hmax, Option.map_some, Option.getD_some]
    exact ⟨n, rfl, by omega⟩

end MemoryTable

end Tablewright
