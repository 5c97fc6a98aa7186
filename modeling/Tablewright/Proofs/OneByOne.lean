import Tablewright.Proofs.SingleChanges
import Tablewright.Proofs.Synchronization

/-!
# A batch and its changes one by one

The same batch applied at once and by an entity's own operations, one for each change. Where the keys
of the updates and removals differ from one another and from those of the new rows, both count the same
changes and leave the same table, by either dialect, plan and order of the changes.

## Key results

- `applyEach_undisturbed`: the operations of an entity, one for each change
- `apply_eq_applyEach`: a batch is what its changes are one by one
-/

namespace Tablewright

open MemoryConnection

variable {σ Item : Type}

/-- The operation of an entity for a change. -/
def Entity.change (e : Entity Item) (conn : Connection σ) (change : ItemChange Item) :
    Operation σ Nat :=
  match change.kind with
  | .insert => e.insert conn change.item
  | .update => e.update conn change.item
  | .delete => e.delete conn change.item

/-- Applies changes one after the other and counts what each of them answers. -/
def Batch.applyEach (e : Entity Item) (conn : Connection σ) : Batch Item → Operation σ SyncCounts
  | [] => return {}
  | change :: rest => do
    let n ← e.change conn change
    let others ← applyEach e conn rest
    return others.plus change.kind n

namespace Batch

variable {b : Batch Item} {options : SyncOptions} {t : Table} {values : Item → List Value}
  {ofRow : Row → Except Fault Item} {c : MemoryConnection}

/-! ## One change -/

/-- Without a limit of time the connection is as undisturbed as with one. -/
theorem undisturbed_unlimited (h : c.Undisturbed options) : c.Undisturbed {} :=
  ⟨h.inTransaction, h.accepting, rfl, rfl, fun _ _ _ => (Option.some_ne_none _).symm⟩

/-- A statement without a limit of time does on the connection what it does on the store. -/
theorem executeIn_undisturbed {sql : String} {parameters : List Parameter} {answer : MemoryAnswer}
    {rows : List (List Value)} {next : Int} (hs : c.store.Serves t) (hcalm : c.Undisturbed {})
    (hrun : (MemoryStore.run sql (parameters.map (·.value))).run c.store =
      (.ok answer, c.store.holding rows next)) :
    ∃ c', (connection.executeIn t.dialect { sql, parameters }).run c = (.ok answer.affected, c') ∧
      c'.store.table = { c.store.table with rows := rows, nextIdentity := next } ∧
      c'.store.Serves t ∧ c'.Undisturbed {} := by
  have haccepted : (run { sql, parameters }).run c = _ := run_accepted (hcalm.refusal? sql) hrun
  have hnext := hcalm.received sql (c.store.holding rows next) (c.received sql).loadedRows
  exact ⟨_, run_executeIn hs.dialect hcalm.prompt haccepted, rfl, hs.holding rows next, hnext⟩

/-- An operation of an entity makes of the table what the change makes of it. -/
theorem change_undisturbed (hp : t.Plain) (hs : c.store.Serves t) (hcalm : c.Undisturbed {})
    (change : ItemChange Item) (hupdate : change.kind = .update → t.updateColumns ≠ []) :
    ∃ c', ((t.entity values ofRow).change connection change).run c =
        (.ok (t.changed c.store.table ⟨change.kind, t.record (values change.item)⟩).1, c') ∧
      c'.store.table = (t.changed c.store.table ⟨change.kind, t.record (values change.item)⟩).2 ∧
      c'.store.Serves t ∧ c'.Undisturbed {} := by
  obtain ⟨kind, item⟩ := change
  cases kind with
  | insert => exact executeIn_undisturbed hs hcalm (MemoryStore.run_insert hp.named hs item)
  | update =>
    show ∃ c', ((t.entity values ofRow).update connection item).run c = _ ∧ _
    rw [Table.update_eq_executeIn connection hp.named (hupdate rfl)]
    exact executeIn_undisturbed hs hcalm (MemoryStore.run_update hp.named hs item)
  | delete =>
    show ∃ c', ((t.entity values ofRow).delete connection item).run c = _ ∧ _
    rw [Table.delete_eq_executeIn connection hp.named]
    exact executeIn_undisturbed hs hcalm (MemoryStore.run_delete hp.named hs item)

/-! ## All changes -/

/-- The operations of an entity make of the table what the changes make of it one by one. -/
theorem applyEach_undisturbed (hp : t.Plain) (hs : c.store.Serves t) (hcalm : c.Undisturbed {})
    (hupdates : (∃ change ∈ b, change.kind = .update) → t.updateColumns ≠ []) :
    ∃ c', (b.applyEach (t.entity values ofRow) connection).run c =
        (.ok (t.changedEach c.store.table (b.records (t.entity values ofRow))).1, c') ∧
      c'.store.table = (t.changedEach c.store.table (b.records (t.entity values ofRow))).2 := by
  -- Each operation leaves the connection as calm as before, for those behind it.
  induction b generalizing c with
  | nil => exact ⟨c, rfl, rfl⟩
  | cons change rest ih =>
    obtain ⟨c₁, hrun₁, htable₁, hs₁, hcalm₁⟩ := change_undisturbed hp hs hcalm change
      fun hkind => hupdates ⟨change, List.mem_cons_self, hkind⟩
    obtain ⟨c₂, hrun₂, htable₂⟩ := ih hs₁ hcalm₁ fun ⟨x, hx, hkind⟩ =>
      hupdates ⟨x, List.mem_cons_of_mem _ hx, hkind⟩
    rw [htable₁] at hrun₂ htable₂
    refine ⟨c₂, ?_, htable₂⟩
    rw [applyEach, run_bind_ok hrun₁, run_bind_ok hrun₂]
    rfl

/-- A batch is what its changes are one by one: where no row has the key of two changes, both answer
the same counts and leave the same table. The script counts with 64 bits and a sign; no list in memory
is longer than such a count. -/
theorem apply_eq_applyEach (hp : t.Plain) (hs : c.store.Serves t) (hcalm : c.Undisturbed options)
    (hapart : t.KeysApart c.store.table.nextIdentity (b.records (t.entity values ofRow)))
    (hupdates : (∃ change ∈ b, change.kind = .update) → t.updateColumns ≠ [])
    (hsize : c.store.table.rows.length + b.length < twoTo 63) :
    ∃ counts c₁ c₂,
      (b.apply (t.entity values ofRow) connection options).run c = (.ok counts, c₁) ∧
      (b.applyEach (t.entity values ofRow) connection).run c = (.ok counts, c₂) ∧
      c₁.store.table = c₂.store.table := by
  obtain ⟨c₁, hrun₁, htable₁⟩ := apply_undisturbed (b := b) hp hs (reportable_records hsize) hcalm
  obtain ⟨c₂, hrun₂, htable₂⟩ := applyEach_undisturbed hp hs (undisturbed_unlimited hcalm) hupdates
  have hrecords : (∃ x ∈ b.records (t.entity values ofRow), x.kind = .update) →
      t.updateColumns ≠ [] := by
    rintro ⟨x, hx, hkind⟩
    obtain ⟨change, hc, rfl⟩ := List.mem_map.1 hx
    exact hupdates ⟨change, hc, hkind⟩
  rw [Table.changedEach_eq_synced hp.distinct hapart hrecords] at hrun₂ htable₂
  exact ⟨_, c₁, c₂, hrun₁, hrun₂, htable₁.trans htable₂.symm⟩

/-- A sale, a delivery and a clearance: the row of the delivery gets the third identifier. -/
theorem apply_eq_applyEach_stock :
    (Table.stock .sqlServer).KeysApart 3
        (records Table.trade (Table.stock .sqlServer).plainEntity) ∧
      ∃ counts, ∃ c₁ c₂ : MemoryConnection,
        (apply Table.trade (Table.stock .sqlServer).plainEntity connection {}).run
          { store := Table.stocked .sqlServer [4, 5] } = (.ok counts, c₁) ∧
        (applyEach (Table.stock .sqlServer).plainEntity connection Table.trade).run
          { store := Table.stocked .sqlServer [4, 5] } = (.ok counts, c₂) ∧
        c₁.store.table = c₂.store.table := by
  have hp : (Table.stock .sqlServer).Plain := by decide +kernel
  have hs : (Table.stocked .sqlServer [4, 5]).Serves (Table.stock .sqlServer) :=
    ⟨rfl, by decide +kernel⟩
  have hcalm : Undisturbed { store := Table.stocked .sqlServer [4, 5] } {} :=
    ⟨rfl, rfl, rfl, rfl, fun _ _ _ => (Option.some_ne_none _).symm⟩
  have hapart : (Table.stock .sqlServer).KeysApart 3
      (records Table.trade (Table.stock .sqlServer).plainEntity) :=
    ⟨by decide +kernel, by decide +kernel⟩
  exact ⟨hapart, apply_eq_applyEach hp hs hcalm hapart (fun _ => by decide +kernel) (by decide)⟩

end Batch

end Tablewright
