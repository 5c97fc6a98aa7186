import Tablewright.Proofs.KeyValues
import Tablewright.Proofs.MemoryRecords

/-!
# Changes one after the other

What single changes make of a table, each of them on the table that the one before it left. If no row
has the key of two changes, their order does not matter beyond that of the new rows, and all of them
together are what `Table.synced` makes of the batch in either dialect.

## Key results

- `changedEach_eq_settled`: changes with different keys, applied one by one
- `changedEach_eq_synced`: they do what the batch does
-/

namespace Tablewright

/-- The counts with a number of changes of a kind more. -/
def SyncCounts.plus (c : SyncCounts) : ChangeKind → Nat → SyncCounts
  | .insert, n => { c with inserted := n + c.inserted }
  | .update, n => { c with updated := n + c.updated }
  | .delete, n => { c with deleted := n + c.deleted }

namespace Table

variable (t : Table)

/-- What a single change makes of a table, and the number of rows that it changes. -/
def changed (m : MemoryTable) (change : ItemChange (List Value)) : Nat × MemoryTable :=
  match change.kind with
  | .insert =>
    (1, { m with
      rows := m.rows ++ t.newRecords m.nextIdentity [change.item]
      nextIdentity := t.nextAfter m.nextIdentity 1 })
  | .update =>
    (m.rows.countP (t.sameKey · change.item), { m with rows := t.withUpdates [change.item] m.rows })
  | .delete =>
    (m.rows.countP (t.sameKey · change.item),
      { m with rows := t.withoutDeleted [change.item] m.rows })

/-- What changes make of a table one after the other. -/
def changedEach (m : MemoryTable) : List (ItemChange (List Value)) → SyncCounts × MemoryTable
  | [] => ({}, m)
  | change :: rest =>
    let first := t.changed m change
    let others := changedEach first.2 rest
    (others.1.plus change.kind first.1, others.2)

/-- No row has the key of two changes: the updates and removals have different keys, and none of them
has that of a new row. -/
structure KeysApart (next : Int) (changes : List (ItemChange (List Value))) : Prop where
  different : changes.Pairwise fun x y => x.kind ≠ .insert → y.kind ≠ .insert →
    t.sameKey x.item y.item = false
  fresh : ∀ x ∈ changes, x.kind ≠ .insert →
    ∀ row ∈ t.newRecords next (recordsOf .insert changes), t.sameKey row x.item = false

/-- The table with the updates and the removals of its rows, and the new rows behind them. -/
def settled (m : MemoryTable) (changes : List (ItemChange (List Value))) : SyncCounts × MemoryTable :=
  ({ inserted := (recordsOf .insert changes).length
     updated := m.rows.countP (t.hasKeyIn (recordsOf .update changes))
     deleted := m.rows.countP (t.hasKeyIn (recordsOf .delete changes)) },
    { m with
      rows := t.withoutDeleted (recordsOf .delete changes)
          (t.withUpdates (recordsOf .update changes) m.rows) ++
        t.newRecords m.nextIdentity (recordsOf .insert changes)
      nextIdentity := t.nextAfter m.nextIdentity (recordsOf .insert changes).length })

variable {t} {sources rows : List (List Value)} {record : List Value}

/-! ## Rows that no change reaches -/

theorem hasKeyIn_eq_false {row : List Value} (h : ∀ source ∈ sources, t.sameKey row source = false) :
    t.hasKeyIn sources row = false := by
  rw [hasKeyIn, List.any_eq_false]
  intro source hm
  rw [h source hm]
  exact Bool.false_ne_true

theorem withUpdates_of_apart (h : ∀ row ∈ rows, t.hasKeyIn sources row = false) :
    t.withUpdates sources rows = rows := by
  conv => rhs; rw [← List.map_id rows]
  refine List.map_congr_left fun row hrow => ?_
  have hnone : sources.find? (t.sameKey row) = none := by
    rw [List.find?_eq_none]
    exact List.any_eq_false.1 (h row hrow)
  rw [hnone]
  rfl

theorem withoutDeleted_of_apart (h : ∀ row ∈ rows, t.hasKeyIn sources row = false) :
    t.withoutDeleted sources rows = rows := by
  refine List.filter_eq_self.2 fun row hrow => ?_
  rw [h row hrow]
  rfl

theorem countP_of_apart (h : ∀ row ∈ rows, t.hasKeyIn sources row = false) :
    rows.countP (t.hasKeyIn sources) = 0 := by
  refine List.countP_eq_zero.2 fun row hrow => ?_
  rw [h row hrow]
  exact Bool.false_ne_true

theorem withUpdates_append (rows rows' : List (List Value)) :
    t.withUpdates sources (rows ++ rows') = t.withUpdates sources rows ++ t.withUpdates sources rows' :=
  List.map_append

theorem withoutDeleted_append (rows rows' : List (List Value)) :
    t.withoutDeleted sources (rows ++ rows') =
      t.withoutDeleted sources rows ++ t.withoutDeleted sources rows' :=
  List.filter_append _ _

/-! ## Keys of updated rows -/

theorem hasKeyIn_overwritten (hd : (t.columns.map (·.name)).Nodup) (source row : List Value) :
    t.hasKeyIn sources (t.overwritten source row) = t.hasKeyIn sources row := by
  rw [hasKeyIn, hasKeyIn]
  congr 1
  exact funext fun other => sameKey_overwritten hd source row other

/-- An update changes the key of no row. -/
theorem countP_withUpdates (hd : (t.columns.map (·.name)).Nodup) (updates : List (List Value)) :
    (t.withUpdates updates rows).countP (t.hasKeyIn sources) = rows.countP (t.hasKeyIn sources) := by
  rw [withUpdates, List.countP_map]
  refine List.countP_congr fun row _ => ?_
  rw [Function.comp_apply]
  cases updates.find? (t.sameKey row) with
  | none => rfl
  | some source =>
    show t.hasKeyIn sources (t.overwritten source row) = true ↔ _
    rw [hasKeyIn_overwritten hd]

/-- Rows can be removed before they are updated. -/
theorem withoutDeleted_withUpdates (hd : (t.columns.map (·.name)).Nodup)
    (updates deletes : List (List Value)) (rows : List (List Value)) :
    t.withoutDeleted deletes (t.withUpdates updates rows) =
      t.withUpdates updates (t.withoutDeleted deletes rows) := by
  rw [withoutDeleted, withUpdates, List.filter_map]
  refine congrArg (List.map _) (List.filter_congr fun row _ => ?_)
  -- An overwritten row has its old key, by which it is removed or kept.
  rw [Function.comp_apply]
  cases updates.find? (t.sameKey row) with
  | none => rfl
  | some source =>
    show (!t.hasKeyIn deletes (t.overwritten source row)) = _
    rw [hasKeyIn_overwritten hd]

/-! ## One change before others -/

/-- A row that has the key of a record has that of no other one. -/
theorem hasKeyIn_of_apart (h : ∀ source ∈ sources, t.sameKey record source = false) {row : List Value}
    (hrow : t.sameKey row record = true) : t.hasKeyIn sources row = false := by
  refine hasKeyIn_eq_false fun source hm => ?_
  by_contra hsame
  rw [Bool.not_eq_false] at hsame
  have hboth := sameKey_of_sameKey hrow hsame
  rw [h source hm] at hboth
  exact Bool.false_ne_true hboth

/-- The rows with one of the keys are those with the first of them and those with another one. -/
theorem countP_cons (h : ∀ source ∈ sources, t.sameKey record source = false)
    (rows : List (List Value)) :
    rows.countP (t.hasKeyIn (record :: sources)) =
      rows.countP (t.sameKey · record) + rows.countP (t.hasKeyIn sources) := by
  induction rows with
  | nil => rfl
  | cons row rows ih =>
    rw [List.countP_cons, List.countP_cons, List.countP_cons, ih]
    have hcons : t.hasKeyIn (record :: sources) row =
        (t.sameKey row record || t.hasKeyIn sources row) := List.any_cons
    rw [hcons]
    -- A row with the first key has none of the others and is not counted twice.
    cases hrow : t.sameKey row record with
    | true =>
      rw [hasKeyIn_of_apart h hrow]
      simp only [Bool.true_or, if_true, Bool.false_eq_true, if_false]
      omega
    | false =>
      simp only [Bool.false_or, Bool.false_eq_true, if_false]
      omega

theorem withUpdates_cons (hd : (t.columns.map (·.name)).Nodup)
    (h : ∀ source ∈ sources, t.sameKey record source = false) (rows : List (List Value)) :
    t.withUpdates (record :: sources) rows = t.withUpdates sources (t.withUpdates [record] rows) := by
  rw [withUpdates, withUpdates, withUpdates, List.map_map]
  refine List.map_congr_left fun row _ => ?_
  rw [Function.comp_apply, List.find?_cons, List.find?_singleton]
  cases hrow : t.sameKey row record with
  | true =>
    -- The row is overwritten once; its key is still that of the record and of no later one.
    have hnone : sources.find? (t.sameKey (t.overwritten record row)) = none := by
      rw [List.find?_eq_none]
      refine List.any_eq_false.1 ?_
      exact (hasKeyIn_overwritten hd record row).trans (hasKeyIn_of_apart h hrow)
    simp [hnone]
  | false => simp

theorem withoutDeleted_cons (record : List Value) (sources rows : List (List Value)) :
    t.withoutDeleted (record :: sources) rows =
      t.withoutDeleted sources (t.withoutDeleted [record] rows) := by
  rw [withoutDeleted, withoutDeleted, withoutDeleted, List.filter_filter]
  refine List.filter_congr fun row _ => ?_
  simp [hasKeyIn, Bool.and_comm]

/-- Removing the rows with a key removes none with another one. -/
theorem countP_withoutDeleted (h : ∀ source ∈ sources, t.sameKey record source = false)
    (rows : List (List Value)) :
    (t.withoutDeleted [record] rows).countP (t.hasKeyIn sources) = rows.countP (t.hasKeyIn sources) := by
  rw [withoutDeleted, List.countP_filter]
  refine List.countP_congr fun row _ => ?_
  cases hrow : t.sameKey row record with
  | true => simp [hasKeyIn_of_apart h hrow]
  | false => simp [hasKeyIn, hrow]

/-! ## All changes -/

variable {m : MemoryTable} {next : Int} {change : ItemChange (List Value)}
  {changes rest : List (ItemChange (List Value))} {kind : ChangeKind}

theorem mem_recordsOf (h : record ∈ recordsOf kind changes) :
    ∃ x ∈ changes, x.kind = kind ∧ x.item = record := by
  obtain ⟨x, hx, rfl⟩ := List.mem_map.1 h
  rw [List.mem_filter, decide_eq_true_eq] at hx
  exact ⟨x, hx.1, hx.2, rfl⟩

theorem recordsOf_cons_self (item : List Value) (rest : List (ItemChange (List Value))) :
    recordsOf kind (⟨kind, item⟩ :: rest) = item :: recordsOf kind rest := by
  rw [recordsOf, List.filter_cons_of_pos (by simp)]
  rfl

theorem recordsOf_cons_ne {kind' : ChangeKind} (h : kind' ≠ kind) (item : List Value)
    (rest : List (ItemChange (List Value))) :
    recordsOf kind (⟨kind', item⟩ :: rest) = recordsOf kind rest := by
  rw [recordsOf, List.filter_cons_of_neg (by simpa using h)]
  rfl

theorem newRecords_singleton_append (next : Int) (item : List Value) (sources : List (List Value)) :
    t.newRecords next (item :: sources) =
      t.newRecords next [item] ++ t.newRecords (t.nextAfter next 1) sources := by
  rw [MemoryTable.newRecords_cons, MemoryTable.newRecords_cons]
  rfl

/-- The key of a changed row is not that of a later update or removal. -/
theorem KeysApart.head (h : t.KeysApart next (change :: rest)) (hkind : change.kind ≠ .insert)
    (hk : kind ≠ .insert) : ∀ source ∈ recordsOf kind rest, t.sameKey change.item source = false := by
  intro source hm
  obtain ⟨x, hx, rfl, rfl⟩ := mem_recordsOf hm
  exact (List.pairwise_cons.1 h.different).1 x hx hkind hk

/-- The new rows have the key of no update or removal. -/
theorem KeysApart.new (h : t.KeysApart next changes) (hk : kind ≠ .insert) :
    ∀ row ∈ t.newRecords next (recordsOf .insert changes),
      t.hasKeyIn (recordsOf kind changes) row = false := by
  intro row hrow
  refine hasKeyIn_eq_false fun source hm => ?_
  obtain ⟨x, hx, rfl, rfl⟩ := mem_recordsOf hm
  exact h.fresh x hx hk row hrow

/-- What holds for all changes holds for those behind the first one. -/
theorem KeysApart.tail (h : t.KeysApart m.nextIdentity (change :: rest)) :
    t.KeysApart (t.changed m change).2.nextIdentity rest := by
  refine ⟨(List.pairwise_cons.1 h.different).2, fun x hx hk row hrow => ?_⟩
  refine h.fresh x (List.mem_cons_of_mem _ hx) hk row ?_
  obtain ⟨kind, item⟩ := change
  cases kind with
  | insert =>
    rw [recordsOf_cons_self, newRecords_singleton_append]
    exact List.mem_append_right _ hrow
  | update => rwa [recordsOf_cons_ne (by decide)]
  | delete => rwa [recordsOf_cons_ne (by decide)]

theorem settled_insert {item : List Value} (h : t.KeysApart m.nextIdentity (⟨.insert, item⟩ :: rest)) :
    t.settled m (⟨.insert, item⟩ :: rest) =
      ((t.settled (t.changed m ⟨.insert, item⟩).2 rest).1.plus .insert 1,
        (t.settled (t.changed m ⟨.insert, item⟩).2 rest).2) := by
  -- The new row is counted by none of the later changes, as it has none of their keys.
  have hnew {kind : ChangeKind} (hk : kind ≠ .insert) :
      ∀ row ∈ t.newRecords m.nextIdentity [item], t.hasKeyIn (recordsOf kind rest) row = false := by
    intro row hrow
    have hrow' : row ∈ t.newRecords m.nextIdentity (item :: recordsOf .insert rest) := by
      rw [newRecords_singleton_append]
      exact List.mem_append_left _ hrow
    have hall := h.new hk row (by rwa [recordsOf_cons_self])
    rwa [recordsOf_cons_ne (Ne.symm hk)] at hall
  have hupdate := hnew (by decide : ChangeKind.update ≠ .insert)
  have hdelete := hnew (by decide : ChangeKind.delete ≠ .insert)
  simp only [settled, changed, SyncCounts.plus, recordsOf_cons_self,
    recordsOf_cons_ne (by decide : ChangeKind.insert ≠ .update),
    recordsOf_cons_ne (by decide : ChangeKind.insert ≠ .delete), List.countP_append,
    countP_of_apart hupdate, countP_of_apart hdelete, withUpdates_append, withoutDeleted_append,
    withUpdates_of_apart hupdate, withoutDeleted_of_apart hdelete, MemoryTable.nextAfter_add,
    List.length_cons, List.append_assoc, ← newRecords_singleton_append, Nat.add_zero,
    Nat.add_comm 1]

theorem settled_update (hd : (t.columns.map (·.name)).Nodup) {item : List Value}
    (h : t.KeysApart m.nextIdentity (⟨.update, item⟩ :: rest)) :
    t.settled m (⟨.update, item⟩ :: rest) =
      ((t.settled (t.changed m ⟨.update, item⟩).2 rest).1.plus .update
          (m.rows.countP (t.sameKey · item)),
        (t.settled (t.changed m ⟨.update, item⟩).2 rest).2) := by
  have hupdate := h.head (by simp) (by decide : ChangeKind.update ≠ .insert)
  simp only [settled, changed, SyncCounts.plus, recordsOf_cons_self,
    recordsOf_cons_ne (by decide : ChangeKind.update ≠ .insert),
    recordsOf_cons_ne (by decide : ChangeKind.update ≠ .delete), countP_cons hupdate,
    countP_withUpdates hd, withUpdates_cons hd hupdate]

theorem settled_delete (hd : (t.columns.map (·.name)).Nodup) {item : List Value}
    (h : t.KeysApart m.nextIdentity (⟨.delete, item⟩ :: rest)) :
    t.settled m (⟨.delete, item⟩ :: rest) =
      ((t.settled (t.changed m ⟨.delete, item⟩).2 rest).1.plus .delete
          (m.rows.countP (t.sameKey · item)),
        (t.settled (t.changed m ⟨.delete, item⟩).2 rest).2) := by
  have hupdate := h.head (by simp) (by decide : ChangeKind.update ≠ .insert)
  have hdelete := h.head (by simp) (by decide : ChangeKind.delete ≠ .insert)
  simp only [settled, changed, SyncCounts.plus, recordsOf_cons_self,
    recordsOf_cons_ne (by decide : ChangeKind.delete ≠ .insert),
    recordsOf_cons_ne (by decide : ChangeKind.delete ≠ .update), countP_cons hdelete,
    countP_withoutDeleted hupdate, countP_withoutDeleted hdelete,
    withoutDeleted_cons item (recordsOf .delete rest), withoutDeleted_withUpdates hd]

/-- Changes with different keys, applied one by one. -/
theorem changedEach_eq_settled (hd : (t.columns.map (·.name)).Nodup)
    (h : t.KeysApart m.nextIdentity changes) : t.changedEach m changes = t.settled m changes := by
  -- The first change moves what is assigned next and the rows; the others see the table behind it.
  induction changes generalizing m with
  | nil =>
    simp [changedEach, settled, recordsOf, countP_hasKeyIn_nil, withUpdates_nil, withoutDeleted_nil,
      newRecords, nextAfter]
  | cons change rest ih =>
    have hrest := ih h.tail
    obtain ⟨kind, item⟩ := change
    rw [changedEach, hrest]
    cases kind with
    | insert => exact (settled_insert h).symm
    | update => exact (settled_update hd h).symm
    | delete => exact (settled_delete hd h).symm

/-- In either dialect a batch does what its changes do one after the other. -/
theorem changedEach_eq_synced (hd : (t.columns.map (·.name)).Nodup)
    (h : t.KeysApart m.nextIdentity changes)
    (hupdates : (∃ x ∈ changes, x.kind = .update) → t.updateColumns ≠ []) :
    t.changedEach m changes = t.synced m changes := by
  have hupdate := h.new (by decide : ChangeKind.update ≠ .insert)
  have hdelete := h.new (by decide : ChangeKind.delete ≠ .insert)
  have hnone : t.updateColumns.isEmpty = true → recordsOf .update changes = [] := by
    intro hempty
    refine List.eq_nil_iff_forall_not_mem.2 fun record hm => ?_
    obtain ⟨x, hx, hkind, -⟩ := mem_recordsOf hm
    exact hupdates ⟨x, hx, hkind⟩ (List.isEmpty_iff.1 hempty)
  have hcount (rows : List (List Value)) :
      (if t.updateColumns.isEmpty then 0 else rows.countP (t.hasKeyIn (recordsOf .update changes))) =
        rows.countP (t.hasKeyIn (recordsOf .update changes)) := by
    by_cases hempty : t.updateColumns.isEmpty = true
    · rw [if_pos hempty, hnone hempty, countP_hasKeyIn_nil]
    · rw [if_neg hempty]
  rw [changedEach_eq_settled hd h, settled, synced]
  simp only [hcount, countP_withUpdates hd]
  -- The dialect decides whether updates see the new rows, whose keys they do not have.
  cases hdialect : t.dialect with
  | sqlServer =>
    simp only [List.countP_append, countP_of_apart hupdate, countP_of_apart hdelete,
      withUpdates_append, withoutDeleted_append, withUpdates_of_apart hupdate,
      withoutDeleted_of_apart hdelete, Nat.add_zero, length_newRecords]
  | postgres => simp only [length_newRecords]

end Table

end Tablewright
