import Tablewright.Proofs.ApplyRuns
import Tablewright.Proofs.EntityStatements
import Tablewright.Proofs.SyncOutcomes

/-!
# Synchronization

A batch applied to the store in memory, by one insert or through a staging table. Both ways the calls
come to what `Table.synced` says, and a batch that is stopped on its way has changed nothing: the
staging table that it may leave behind is replaced by that of the next batch.

## Key results

- `outcome_apply`: a batch is applied as `Table.synced` says, or it is stopped
- `apply_undisturbed`: the answer and the table where nothing disturbs the connection
- `apply_inserts_any_plan`: whichever way an insert-only batch takes, it does the same
- `allOrNothing_apply`: a disturbed batch does all of its work or none of it
-/

namespace Tablewright

open MemoryConnection Sql

/-! ## Reported counts -/

theorem Row.count_int64 {r : Row} {name : String} {i : Nat} {n : Nat} (hn : n < twoTo 63)
    (hposition : r.position? name = some i)
    (hvalue : r.values[i]? = some (.int64 (Int64.ofInt n))) : r.count name = .ok n := by
  have hbound : twoTo 63 = 9223372036854775808 := by decide
  have hn' : n < 9223372036854775808 := hbound ▸ hn
  have htoInt : (Int64.ofInt n).toInt = n := Int64.toInt_ofInt_of_le (by omega) (by omega)
  have hrange : IntType.u64.low ≤ (n : Int) ∧ (n : Int) ≤ IntType.u64.high := by
    have hlow : IntType.u64.low = 0 := by decide
    have hhigh : IntType.u64.high = 18446744073709551615 := by decide
    omega
  have hread : (Scalar.int .u64).read (.int64 (Int64.ofInt n)) = .ok ⟨(n : Int), hrange⟩ := by
    show Scalar.readInt .u64 (Int64.ofInt n).toInt = _
    rw [htoInt, Scalar.readInt, IntType.ofInt?, dif_pos hrange]
    rfl
  rw [count, read, hposition]
  simp only [readAt, hvalue, hread]
  rfl

/-- The counts that 64 bits with a sign hold, in which a script reports them. -/
structure SyncCounts.Reportable (c : SyncCounts) : Prop where
  inserted : c.inserted < twoTo 63
  updated : c.updated < twoTo 63
  deleted : c.deleted < twoTo 63

/-- Such counts are read as they were reported. -/
theorem SyncCounts.ofRow_row {c : SyncCounts} (h : c.Reportable) : SyncCounts.ofRow c.row = .ok c := by
  have hposition {name : String} {i : Nat} (hi : ["inserted", "updated", "deleted"].findIdx?
      (Text.eqIgnoreAsciiCase · name) = some i) : c.row.position? name = some i := hi
  have hinserted : c.row.count "inserted" = .ok c.inserted :=
    Row.count_int64 h.inserted (hposition (i := 0) (by decide)) rfl
  have hupdated : c.row.count "updated" = .ok c.updated :=
    Row.count_int64 h.updated (hposition (i := 1) (by decide)) rfl
  have hdeleted : c.row.count "deleted" = .ok c.deleted :=
    Row.count_int64 h.deleted (hposition (i := 2) (by decide)) rfl
  rw [SyncCounts.ofRow, hinserted, hupdated, hdeleted]
  rfl

namespace Table

variable (t : Table)

theorem length_recordsOf_le (kind : ChangeKind) (changes : List (ItemChange (List Value))) :
    (recordsOf kind changes).length ≤ changes.length := by
  rw [recordsOf, List.length_map]
  exact List.length_filter_le _ _

/-- No count exceeds the number of rows that were there and of changes. -/
theorem reportable_synced {m : MemoryTable} {changes : List (ItemChange (List Value))}
    (h : m.rows.length + changes.length < twoTo 63) : (t.synced m changes).1.Reportable := by
  have hnew := Table.length_newRecords (t := t) m.nextIdentity (recordsOf .insert changes)
  have hinserts := length_recordsOf_le .insert changes
  -- The dialects differ in the rows that the updates and deletes see.
  have hseen : ∃ seen : List (List Value), seen.length ≤ m.rows.length + changes.length ∧
      (t.synced m changes).1.updated =
        (if t.updateColumns.isEmpty then 0 else seen.countP (t.hasKeyIn (recordsOf .update changes))) ∧
      (t.synced m changes).1.deleted =
        (t.withUpdates (recordsOf .update changes) seen).countP
          (t.hasKeyIn (recordsOf .delete changes)) := by
    cases hd : t.dialect with
    | sqlServer =>
      refine ⟨m.rows ++ t.newRecords m.nextIdentity (recordsOf .insert changes), ?_, ?_, ?_⟩
      · rw [List.length_append, hnew]
        omega
      · simp only [synced, hd]
      · simp only [synced, hd]
    | postgres =>
      refine ⟨m.rows, Nat.le_add_right _ _, ?_, ?_⟩
      · simp only [synced, hd]
      · simp only [synced, hd]
  obtain ⟨seen, hlength, hupdated, hdeleted⟩ := hseen
  refine ⟨?_, ?_, ?_⟩
  · show (t.newRecords m.nextIdentity (recordsOf .insert changes)).length < _
    omega
  · rw [hupdated]
    split
    · exact twoTo_pos 63
    · exact Nat.lt_of_le_of_lt (Nat.le_trans List.countP_le_length hlength) h
  · rw [hdeleted]
    refine Nat.lt_of_le_of_lt (Nat.le_trans List.countP_le_length (Nat.le_trans ?_ hlength)) h
    exact Nat.le_of_eq (List.length_map _)

/-- A batch of inserts counts its changes alone. -/
theorem reportable_inserts {changes : List (ItemChange (List Value))}
    (h : ∀ change ∈ changes, change.kind = .insert) (hsize : changes.length < twoTo 63)
    (m : MemoryTable) : (t.synced m changes).1.Reportable := by
  rw [synced_inserts h]
  exact ⟨hsize, twoTo_pos 63, twoTo_pos 63⟩

end Table

/-! ## The calls of a batch -/

namespace Batch

section Plan

variable {Item : Type} (b : Batch Item) (e : Entity Item) (options : SyncOptions)

/-- The changes with the records of their items. -/
def records : List (ItemChange (List Value)) :=
  b.map fun change => ⟨change.kind, e.stagingRow change.item⟩

/-- The calls of a synchronization that nothing disturbs: one insert of all items, or the three calls
of a staged batch. -/
def calls : List Call :=
  match b.plan e options with
  | .empty => []
  | .fastPath => [.execute (e.insertCommand (b.map (·.item)) options.timeout)]
  | .staging indexed =>
    match e.texts.staging with
    | some staging =>
      [.execute { sql := staging.create, timeout := options.timeout },
        .bulkLoad { table := staging.table, columns := staging.columns, rows := b.stagedRows e
                    timeout := options.timeout },
        .fetch { sql := if indexed then staging.applyIndexed else staging.apply
                 timeout := options.timeout }]
    | none => []

variable {b e options}

theorem length_records : (b.records e).length = b.length :=
  List.length_map _

theorem stagedRows_records : b.stagedRows e = (b.records e).map stagedRow := by
  rw [records, List.map_map]
  rfl

theorem insertOnly_of_fastPath (h : b.plan e options = .fastPath) :
    b ≠ [] ∧ ∀ change ∈ b.records e, change.kind = .insert := by
  rw [plan] at h
  split at h
  · exact absurd h (by decide)
  · rename_i hempty
    split at h
    · rename_i hfast
      rw [Bool.and_eq_true, Bool.and_eq_true, isInsertOnly, List.all_eq_true] at hfast
      refine ⟨fun hb => hempty (List.isEmpty_iff.2 hb), fun change hc => ?_⟩
      obtain ⟨item, hitem, rfl⟩ := List.mem_map.1 hc
      exact of_decide_eq_true (hfast.1.1 item hitem)
    · exact absurd h (by simp)

theorem eq_nil_of_empty (h : b.plan e options = .empty) : b = [] := by
  rw [plan] at h
  split at h
  · rename_i hempty
    exact List.isEmpty_iff.1 hempty
  · split at h
    · exact absurd h (by decide)
    · exact absurd h (by simp)

end Plan

variable {Item : Type} {b : Batch Item} {options : SyncOptions} {t : Table}
  {values : Item → List Value} {ofRow : Row → Except Fault Item} {calm : Prop}
  {c : MemoryConnection}

theorem fitsColumns_records : FitsColumns t (b.records (t.entity values ofRow)) := by
  intro change hc
  obtain ⟨item, -, rfl⟩ := List.mem_map.1 hc
  exact List.length_map _

/-- The texts for staging of a table with a key. -/
def stagingOf (t : Table) : StagingTexts where
  table := t.stagingText
  create := t.textOf t.stagingCreate
  columns := t.stagingColumns
  index := t.textOf t.stagingIndex
  apply := t.textOf t.apply
  applyIndexed := t.textOf t.applyIndexed

theorem staging_entity (hp : t.Plain) :
    (t.entity values ofRow).texts.staging = some (stagingOf t) := by
  have hkeyed : t.keyColumns.isEmpty = false := by
    rw [List.isEmpty_eq_false_iff]
    exact Table.keyColumns_ne_nil hp.named
  show t.stagingTexts = _
  rw [Table.stagingTexts, hkeyed]
  rfl

/-! ## One insert -/

theorem outcome_applyAtOnce (hp : t.Plain) (hs : c.store.Serves t)
    (hplan : b.plan (t.entity values ofRow) options = .fastPath)
    (hcalm : calm → c.Undisturbed options) (log : CallLog) :
    Outcome calm t.dialect c.store.table
      (t.synced c.store.table (b.records (t.entity values ofRow)))
      [.execute ((t.entity values ofRow).insertCommand (b.map (·.item)) options.timeout)] log
      ((b.applyAtOnce (t.entity values ofRow) connection.traced options).run (c, log)) := by
  obtain ⟨hne, hinserts⟩ := insertOnly_of_fastPath hplan
  have hitems : b.map (·.item) ≠ [] := by simpa using hne
  have hsynced := Table.synced_inserts (t := t) hinserts c.store.table
  have hshows : c.store.Shows t.dialect c.store.table := ⟨hs.dialect, rfl⟩
  refine Outcome.checkpoint (by simp) hshows hcalm ?_
  refine Outcome.executeIn rfl (MemoryStore.run_insertCommand hp.named hs hitems options.timeout) hshows
    hcalm fun c' hstore _ => ?_
  -- The items of the changes are the records that the store adds.
  have hrecords : (b.map (·.item)).map (fun item => t.record (values item)) =
      (b.records (t.entity values ofRow)).map (·.item) := by
    rw [records, List.map_map, List.map_map]
    rfl
  rw [List.length_map, ← length_records (e := t.entity values ofRow), hrecords] at hstore
  rw [hsynced, List.length_map, ← length_records (e := t.entity values ofRow)]
  refine .applied c' _ (List.append_nil _).symm ⟨?_, ?_⟩
  · rw [hstore]
    exact hs.dialect
  · rw [hstore]
    rfl

/-! ## Three calls -/

/-- The script on a store into which the changes were loaded. -/
theorem run_applyLoaded (values : Item → List Value) (ofRow : Row → Except Fault Item) (hp : t.Plain)
    {s : MemoryStore} (hs : s.Serves t) (b : Batch Item) (indexed : Bool) :
    (MemoryStore.run (if indexed then (stagingOf t).applyIndexed else (stagingOf t).apply) []).run
        (s.openStaging t.stagingText
          ⟨t.stagingColumns, b.stagedRows (t.entity values ofRow)⟩) =
      (.ok { rows := [(t.synced s.table (b.records (t.entity values ofRow))).1.row] },
        MemoryStore.closeStaging { s.openStaging t.stagingText
          ⟨t.stagingColumns, b.stagedRows (t.entity values ofRow)⟩ with
            table := (t.synced s.table (b.records (t.entity values ofRow))).2 } t.stagingText) := by
  have hfit : FitsColumns t (b.records (t.entity values ofRow)) := fitsColumns_records
  have hstages := MemoryStore.Stages.ofLoad hs (b.records (t.entity values ofRow))
  rw [← stagedRows_records] at hstages
  cases indexed with
  | false => exact MemoryStore.run_apply hp hfit hstages
  | true => exact MemoryStore.run_applyIndexed hp hfit hstages

theorem outcome_applyStaged (hp : t.Plain) (hs : c.store.Serves t)
    (hcounts : (t.synced c.store.table (b.records (t.entity values ofRow))).1.Reportable)
    (indexed : Bool) (hcalm : calm → c.Undisturbed options) (log : CallLog) :
    Outcome calm t.dialect c.store.table
      (t.synced c.store.table (b.records (t.entity values ofRow)))
      [.execute { sql := (stagingOf t).create, timeout := options.timeout },
        .bulkLoad { table := (stagingOf t).table, columns := (stagingOf t).columns
                    rows := b.stagedRows (t.entity values ofRow), timeout := options.timeout },
        .fetch { sql := if indexed then (stagingOf t).applyIndexed else (stagingOf t).apply
                 timeout := options.timeout }] log
      ((b.applyStaged (t.entity values ofRow) connection.traced options (stagingOf t) indexed).run
        (c, log)) := by
  have hcreate := MemoryStore.run_stagingCreate hp hs
  have hload := MemoryStore.run_load (s := c.store) t.stagingText t.stagingColumns []
    (b.stagedRows (t.entity values ofRow))
  have happly := run_applyLoaded values ofRow hp hs b indexed
  rw [List.nil_append] at hload
  generalize t.synced c.store.table (b.records (t.entity values ofRow)) = result at happly hcounts ⊢
  have hrow := SyncCounts.ofRow_row hcounts
  -- The staging table comes and goes beside the table, which keeps its rows until the script runs.
  refine Outcome.checkpoint (by simp) ⟨hs.dialect, rfl⟩ hcalm ?_
  refine Outcome.executeIn rfl hcreate ⟨hs.dialect, rfl⟩ hcalm fun c₁ hstore₁ hcalm₁ => ?_
  have hshows₁ : c₁.store.Shows t.dialect c.store.table := by
    rw [hstore₁]
    exact ⟨hs.dialect, rfl⟩
  rw [← hstore₁] at hload
  refine Outcome.checkpoint (by simp) hshows₁ hcalm₁ ?_
  refine Outcome.bulkLoad hload hshows₁ hcalm₁ fun c₂ hstore₂ hcalm₂ => ?_
  have hshows₂ : c₂.store.Shows t.dialect c.store.table := by
    rw [hstore₂]
    exact ⟨hs.dialect, rfl⟩
  rw [← hstore₂] at happly
  refine Outcome.checkpoint (by simp) hshows₂ hcalm₂ ?_
  refine Outcome.fetchIn happly hshows₂ hcalm₂ fun c₃ hstore₃ _ => ?_
  show Outcome _ _ _ _ _ _ ((MonadExcept.ofExcept (SyncCounts.ofRow result.1.row) :
    Operation (MemoryConnection × CallLog) SyncCounts).run _)
  rw [hrow]
  refine .applied c₃ _ (List.append_nil _).symm ?_
  rw [hstore₃, hstore₂]
  exact ⟨hs.dialect, rfl⟩

/-! ## Whole synchronizations -/

theorem calls_ne_nil (hp : t.Plain) (hb : b ≠ []) : b.calls (t.entity values ofRow) options ≠ [] := by
  rw [calls]
  cases hplan : b.plan (t.entity values ofRow) options with
  | empty => exact absurd (eq_nil_of_empty hplan) hb
  | fastPath => exact List.cons_ne_nil _ _
  | staging indexed =>
    rw [staging_entity hp]
    exact List.cons_ne_nil _ _

/-- A batch is applied as `Table.synced` says, or something disturbed it and it is stopped. -/
theorem outcome_apply (hp : t.Plain) (hm : c.store.table.Holds t) (hb : b ≠ [])
    (hcounts : (t.synced c.store.table (b.records (t.entity values ofRow))).1.Reportable)
    (log : CallLog) :
    Outcome (c.Undisturbed options ∧ c.store.dialect = t.dialect) c.store.dialect c.store.table
      (t.synced c.store.table (b.records (t.entity values ofRow)))
      (b.calls (t.entity values ofRow) options) log
      ((b.apply (t.entity values ofRow) connection.traced options).run (c, log)) := by
  have hne : b.calls (t.entity values ofRow) options ≠ [] := calls_ne_nil hp hb
  -- The transaction and the dialect are checked before any call.
  refine Outcome.check (fun c => if connection.inTransaction c then none
    else some (.transactionRequired "bulk sync")) hne ⟨rfl, rfl⟩
    (fun h => if_pos h.1.inTransaction) fun _ => ?_
  refine Outcome.check (fun c => if connection.dialect c = t.dialect then none
    else some (.dialectMismatch t.dialect (connection.dialect c))) hne ⟨rfl, rfl⟩
    (fun h => if_pos h.2) fun hdialect => ?_
  have hd : c.store.dialect = t.dialect := by
    by_contra hd
    exact absurd ((if_neg hd).symm.trans hdialect) (Option.some_ne_none _)
  have hs : c.store.Serves t := ⟨hd, hm⟩
  rw [calls] at hne ⊢
  rw [hd]
  cases hplan : b.plan (t.entity values ofRow) options with
  | empty => exact absurd (eq_nil_of_empty hplan) hb
  | fastPath => exact outcome_applyAtOnce hp hs hplan (fun h => h.1) log
  | staging indexed =>
    have hstaged := outcome_applyStaged hp hs hcounts indexed
      (fun h : c.Undisturbed options ∧ t.dialect = t.dialect => h.1) log
    rw [staging_entity hp]
    exact hstaged

/-- A synchronization that notes its calls. -/
def tracedApply (b : Batch Item) (e : Entity Item) (options : SyncOptions) (c : MemoryConnection) :
    Except Fault SyncCounts × (MemoryConnection × CallLog) :=
  (b.apply e connection.traced options).run (c, [])

theorem run_apply_eq (b : Batch Item) (e : Entity Item) (options : SyncOptions) (c : MemoryConnection) :
    (b.apply e connection options).run c =
      ((b.tracedApply e options c).1, (b.tracedApply e options c).2.1) :=
  follows_apply connection b e options c []

/-- Where nothing disturbs the connection, all calls are made and succeed. -/
theorem tracedApply_undisturbed (hp : t.Plain) (hs : c.store.Serves t) (hb : b ≠ [])
    (hcounts : (t.synced c.store.table (b.records (t.entity values ofRow))).1.Reportable)
    (hcalm : c.Undisturbed options) :
    ∃ c', b.tracedApply (t.entity values ofRow) options c =
        (.ok (t.synced c.store.table (b.records (t.entity values ofRow))).1,
          (c', (b.calls (t.entity values ofRow) options).map (·, true))) ∧
      c'.store.Shows t.dialect (t.synced c.store.table (b.records (t.entity values ofRow))).2 := by
  have h : Outcome (c.Undisturbed options ∧ _) _ _ _ _ _ (b.tracedApply _ options c) :=
    outcome_apply hp hs.table hb hcounts []
  obtain ⟨hok, hlog, hshows⟩ := h.of_calm ⟨hcalm, hs.dialect⟩
  rw [hs.dialect] at hshows
  exact ⟨_, Prod.ext hok (Prod.ext rfl hlog), hshows⟩

theorem apply_nil (hs : c.store.Serves t) (hcalm : c.Undisturbed options) :
    (apply ([] : Batch Item) (t.entity values ofRow) connection options).run c = (.ok {}, c) := by
  have htransaction : (connection.requireTransaction "bulk sync").run c = (.ok (), c) :=
    run_require_none (if_pos hcalm.inTransaction)
  have hdialect : (connection.requireDialect (t.entity values ofRow).dialect).run c = (.ok (), c) :=
    run_require_none (if_pos hs.dialect)
  rw [apply, run_bind_ok htransaction, run_bind_ok hdialect]
  rfl

/-- Where nothing disturbs the connection, a batch is applied as `Table.synced` says. -/
theorem apply_undisturbed (hp : t.Plain) (hs : c.store.Serves t)
    (hcounts : (t.synced c.store.table (b.records (t.entity values ofRow))).1.Reportable)
    (hcalm : c.Undisturbed options) :
    ∃ c', (b.apply (t.entity values ofRow) connection options).run c =
        (.ok (t.synced c.store.table (b.records (t.entity values ofRow))).1, c') ∧
      c'.store.table = (t.synced c.store.table (b.records (t.entity values ofRow))).2 := by
  -- An empty batch makes no call; each other one makes all of its calls.
  cases hb : b with
  | nil =>
    have hsynced : t.synced c.store.table [] = _ := Table.synced_inserts (by simp) c.store.table
    refine ⟨c, ?_, ?_⟩
    · rw [apply_nil hs hcalm, records, List.map_nil, hsynced]
      rfl
    · rw [records, List.map_nil, hsynced]
      simp [Table.newRecords, Table.nextAfter]
  | cons change rest =>
    rw [← hb]
    have hne : b ≠ [] := by simp [hb]
    obtain ⟨c', hrun, hshows⟩ := tracedApply_undisturbed hp hs hne hcounts hcalm
    refine ⟨c', ?_, hshows.2⟩
    rw [run_apply_eq, hrun]

theorem reportable_records (h : c.store.table.rows.length + b.length < twoTo 63) :
    (t.synced c.store.table (b.records (t.entity values ofRow))).1.Reportable :=
  t.reportable_synced (by rwa [length_records])

/-- Whichever way a batch of inserts takes, it answers the number of its changes and appends their new
records. The script counts with 64 bits and a sign; no list in memory is longer than such a count. -/
theorem apply_inserts_any_plan {options' : SyncOptions} (hp : t.Plain) (hs : c.store.Serves t)
    (hinserts : b.isInsertOnly = true) (hlength : b.length < twoTo 63)
    (hcalm : c.Undisturbed options) (hcalm' : c.Undisturbed options') :
    ∃ c₁ c₂,
      (b.apply (t.entity values ofRow) connection options).run c =
        (.ok { inserted := b.length, updated := 0, deleted := 0 }, c₁) ∧
      (b.apply (t.entity values ofRow) connection options').run c =
        (.ok { inserted := b.length, updated := 0, deleted := 0 }, c₂) ∧
      c₁.store.table = c₂.store.table ∧
      c₁.store.table.rows = c.store.table.rows ++
        t.newRecords c.store.table.nextIdentity (b.map fun change => t.record (values change.item)) ∧
      c₁.store.table.nextIdentity = t.nextAfter c.store.table.nextIdentity b.length := by
  have hkind : ∀ change ∈ b.records (t.entity values ofRow), change.kind = .insert := by
    intro change hc
    obtain ⟨item, hitem, rfl⟩ := List.mem_map.1 hc
    exact of_decide_eq_true (List.all_eq_true.1 hinserts item hitem)
  have hcounts := t.reportable_inserts hkind (by rwa [length_records]) c.store.table
  have hsynced := Table.synced_inserts (t := t) hkind c.store.table
  have hitems : (b.records (t.entity values ofRow)).map (·.item) =
      b.map fun change => t.record (values change.item) := by
    rw [records, List.map_map]
    rfl
  obtain ⟨c₁, hrun₁, htable₁⟩ := apply_undisturbed hp hs hcounts hcalm
  obtain ⟨c₂, hrun₂, htable₂⟩ := apply_undisturbed hp hs hcounts hcalm'
  rw [hsynced, length_records] at hrun₁ hrun₂
  refine ⟨c₁, c₂, hrun₁, hrun₂, htable₁.trans htable₂.symm, ?_, ?_⟩
  · rw [htable₁, hsynced, hitems]
  · rw [htable₁, hsynced, length_records]

/-- Two deliveries, inserted at once or through a staging table with an index. -/
theorem apply_inserts_any_plan_stock :
    Batch.plan Table.deliveries (Table.stock .sqlServer).plainEntity {} = .fastPath ∧
      Batch.plan Table.deliveries (Table.stock .sqlServer).plainEntity
        { parameterLimit := some 0, indexThreshold := 1 } = .staging true ∧
      ∃ c₁ c₂ : MemoryConnection,
        (Batch.apply Table.deliveries (Table.stock .sqlServer).plainEntity connection {}).run
            { store := Table.stocked .sqlServer [4] } =
          (.ok { inserted := 2, updated := 0, deleted := 0 }, c₁) ∧
        (Batch.apply Table.deliveries (Table.stock .sqlServer).plainEntity connection
            { parameterLimit := some 0, indexThreshold := 1 }).run
            { store := Table.stocked .sqlServer [4] } =
          (.ok { inserted := 2, updated := 0, deleted := 0 }, c₂) ∧
        c₁.store.table = c₂.store.table ∧
        c₁.store.table.rows = [[.int64 1, .text "article", .int32 4],
          [.int64 2, .text "nails", .int32 7], [.int64 3, .text "nails", .int32 7]] ∧
        c₁.store.table.nextIdentity = 4 := by
  have hp : (Table.stock .sqlServer).Plain := by decide +kernel
  have hs : (Table.stocked .sqlServer [4]).Serves (Table.stock .sqlServer) := ⟨rfl, by decide +kernel⟩
  have hcalm (options : SyncOptions) (ht : options.timeout = none) (hc : options.cancel = none) :
      Undisturbed { store := Table.stocked .sqlServer [4] } options := by
    refine ⟨rfl, rfl, by rw [ht]; rfl, by rw [hc]; rfl, fun count token h => ?_⟩
    exact absurd h (Option.some_ne_none _).symm
  refine ⟨by decide +kernel, by decide +kernel, ?_⟩
  exact apply_inserts_any_plan hp hs (by decide) (by decide) (hcalm {} rfl rfl)
    (hcalm { parameterLimit := some 0, indexThreshold := 1 } rfl rfl)

/-! ## Disturbances -/

/-- Without a transaction a batch gets no further than to say so. -/
theorem tracedApply_unopened (h : c.inTransaction = false) :
    b.tracedApply (t.entity values ofRow) options c =
      (.error (.transactionRequired "bulk sync"), (c, [])) := by
  have hrefused : (connection.traced.requireTransaction "bulk sync").run (c, ([] : CallLog)) =
      (.error (.transactionRequired "bulk sync"), (c, [])) :=
    run_require_some (if_neg (Bool.eq_false_iff.1 h))
  rw [tracedApply, apply, run_bind_error hrefused]

theorem run_requireTransaction (h : c.inTransaction = true) (log : CallLog) :
    (connection.traced.requireTransaction "bulk sync").run (c, log) = (.ok (), (c, log)) :=
  run_require_none (if_pos h)

/-- On a connection that speaks another dialect it gets no further either. -/
theorem tracedApply_mismatch (h : c.inTransaction = true) (hd : c.store.dialect ≠ t.dialect) :
    b.tracedApply (t.entity values ofRow) options c =
      (.error (.dialectMismatch t.dialect c.store.dialect), (c, [])) := by
  have hrefused : (connection.traced.requireDialect (t.entity values ofRow).dialect).run
      (c, ([] : CallLog)) = (.error (.dialectMismatch t.dialect c.store.dialect), (c, [])) :=
    run_require_some (if_neg hd)
  rw [tracedApply, apply, run_bind_ok (run_requireTransaction h []), run_bind_error hrefused]

/-- Once the caller has cancelled, each way of applying a batch ends at its first checkpoint. -/
theorem tracedApply_cancelled (hb : b ≠ []) (h : c.inTransaction = true)
    (hd : c.store.dialect = t.dialect) (hcancelled : options.cancel.any c.cancelled.contains = true) :
    (b.tracedApply (t.entity values ofRow) options c).2.2 = [] := by
  have hspeaks : (connection.traced.requireDialect (t.entity values ofRow).dialect).run
      (c, ([] : CallLog)) = (.ok (), (c, [])) := Outcome.run_requireDialect hd []
  have hstop : (connection.traced.checkpoint options.cancel).run (c, ([] : CallLog)) =
      (.error .cancelled, (c, [])) := run_require_some (if_pos hcancelled)
  rw [tracedApply, apply, run_bind_ok (run_requireTransaction h []), run_bind_ok hspeaks]
  cases hplan : b.plan (t.entity values ofRow) options with
  | empty => exact absurd (eq_nil_of_empty hplan) hb
  | fastPath =>
    show ((b.applyAtOnce (t.entity values ofRow) connection.traced options).run (c, [])).2.2 = []
    rw [applyAtOnce]
    simp only [run_bind_error hstop]
  | staging indexed =>
    cases hstaging : (t.entity values ofRow).texts.staging with
    | none => rfl
    | some staging =>
      show ((b.applyStaged (t.entity values ofRow) connection.traced options staging indexed).run
        (c, [])).2.2 = []
      rw [applyStaged]
      simp only [run_bind_error hstop]

/-- Without a transaction, on a connection of another dialect and once the caller has cancelled no call
is made. -/
theorem tracedApply_refused (hb : b ≠ [])
    (h : c.inTransaction = false ∨ c.store.dialect ≠ t.dialect ∨
      options.cancel.any c.cancelled.contains = true) :
    (b.tracedApply (t.entity values ofRow) options c).2.2 = [] := by
  -- In the order of the checks.
  cases hopen : c.inTransaction with
  | false => rw [tracedApply_unopened hopen]
  | true =>
    by_cases hd : c.store.dialect = t.dialect
    · rw [hopen] at h
      have hcancelled := (h.resolve_left (by decide)).resolve_left (fun hne => hne hd)
      exact tracedApply_cancelled hb hopen hd hcancelled
    · rw [tracedApply_mismatch hopen hd]

/-- A synchronization that may be disturbed at any of its calls does all of its work or none of it. -/
structure AllOrNothing (b : Batch Item) (e : Entity Item) (options : SyncOptions)
    (c : MemoryConnection) (result : SyncCounts × MemoryTable) : Prop where
  /-- The calls are noted beside the synchronization: its answer and its connection are the same. -/
  faithful : (b.apply e connection options).run c =
    ((b.tracedApply e options c).1, (b.tracedApply e options c).2.1)
  /-- With the disturbances lifted all calls are made, each with success. -/
  undisturbed : c.store.dialect = e.dialect → ∃ c', b.tracedApply e options c.calm =
    (.ok result.1, (c', (b.calls e options).map (·, true)))
  /-- The calls that are made are the first ones of these. -/
  inOrder : (b.tracedApply e options c).2.2.map Prod.fst <+: b.calls e options
  /-- A connection that must not be used is not used. -/
  refused : (c.inTransaction = false ∨ c.store.dialect ≠ e.dialect ∨
    options.cancel.any c.cancelled.contains = true) → (b.tracedApply e options c).2.2 = []
  /-- The synchronization succeeds if all calls were made and succeeded, and only then. -/
  succeeds : (∃ counts, (b.tracedApply e options c).1 = .ok counts) ↔
    (b.tracedApply e options c).2.2 = (b.calls e options).map (·, true)
  /-- Its counts and its table are then those of the undisturbed one. -/
  applied : ∀ counts, (b.tracedApply e options c).1 = .ok counts →
    counts = result.1 ∧ (b.tracedApply e options c).2.1.store.table = result.2
  /-- Else the table is as it was, with its rows and the value that it assigns next. -/
  unchanged : ∀ fault, (b.tracedApply e options c).1 = .error fault →
    (b.tracedApply e options c).2.1.store.table = c.store.table
  /-- What was left behind does nothing to the next batch. -/
  forgotten : ∀ fault, (b.tracedApply e options c).1 = .error fault →
    ∀ (next : Batch Item) (options' : SyncOptions),
      c.store.table.rows.length + next.length < twoTo 63 →
      ((next.apply e connection options').run (b.tracedApply e options c).2.1.calm).1 =
          ((next.apply e connection options').run c.calm).1 ∧
        ((next.apply e connection options').run (b.tracedApply e options c).2.1.calm).2.store.table =
          ((next.apply e connection options').run c.calm).2.store.table

/-- A connection whose store holds the same table in the same dialect serves a batch as well. -/
theorem apply_calm_eq {c' : MemoryConnection} (hp : t.Plain) (hm : c.store.table.Holds t)
    (hshows : c'.store.Shows c.store.dialect c.store.table)
    (hsize : c.store.table.rows.length + b.length < twoTo 63) :
    ((b.apply (t.entity values ofRow) connection options).run c'.calm).1 =
        ((b.apply (t.entity values ofRow) connection options).run c.calm).1 ∧
      ((b.apply (t.entity values ofRow) connection options).run c'.calm).2.store.table =
        ((b.apply (t.entity values ofRow) connection options).run c.calm).2.store.table := by
  obtain ⟨hdialect, htable⟩ := hshows
  -- On a connection of another dialect both fail alike; else the counts depend on the table alone.
  by_cases hd : c.store.dialect = t.dialect
  · have hs : c.calm.store.Serves t := ⟨hd, hm⟩
    have hs' : c'.calm.store.Serves t := ⟨hdialect.trans hd, by rw [← htable] at hm; exact hm⟩
    have hcounts : (t.synced c.calm.store.table (b.records (t.entity values ofRow))).1.Reportable :=
      reportable_records (c := c.calm) hsize
    have hcounts' : (t.synced c'.calm.store.table
        (b.records (t.entity values ofRow))).1.Reportable := by
      rw [← htable] at hsize
      exact reportable_records (c := c'.calm) hsize
    obtain ⟨c₁, hrun₁, htable₁⟩ := apply_undisturbed hp hs hcounts (undisturbed_calm c options)
    obtain ⟨c₂, hrun₂, htable₂⟩ := apply_undisturbed hp hs' hcounts' (undisturbed_calm c' options)
    have heq : c'.calm.store.table = c.calm.store.table := htable
    rw [heq] at hrun₂ htable₂
    rw [hrun₁, hrun₂]
    exact ⟨rfl, htable₂.trans htable₁.symm⟩
  · have hd' : c'.calm.store.dialect ≠ t.dialect := fun h => hd (hdialect.symm.trans h)
    have hrefused : b.tracedApply (t.entity values ofRow) options c.calm = _ :=
      tracedApply_mismatch rfl hd
    have hrefused' : b.tracedApply (t.entity values ofRow) options c'.calm = _ :=
      tracedApply_mismatch rfl hd'
    have hsame : c'.calm.store.dialect = c.calm.store.dialect := hdialect
    rw [run_apply_eq, run_apply_eq, hrefused, hrefused', hsame]
    exact ⟨rfl, htable⟩

/-- Whatever disturbs a synchronization, it does all of its work or none. The script counts with 64 bits
and a sign; no list in memory is longer than such a count. -/
theorem allOrNothing_apply (hp : t.Plain) (hm : c.store.table.Holds t) (hb : b ≠ [])
    (hsize : c.store.table.rows.length + b.length < twoTo 63) :
    AllOrNothing b (t.entity values ofRow) options c
      (t.synced c.store.table (b.records (t.entity values ofRow))) := by
  have hcounts : (t.synced c.store.table (b.records (t.entity values ofRow))).1.Reportable :=
    reportable_records hsize
  have h : Outcome (c.Undisturbed options ∧ _) _ _ _ _ _ (b.tracedApply _ options c) :=
    outcome_apply hp hm hb hcounts []
  exact {
    faithful := run_apply_eq b _ options c
    undisturbed := by
      intro hd
      obtain ⟨c', hrun, -⟩ := tracedApply_undisturbed (c := c.calm) hp ⟨hd, hm⟩ hb hcounts
        (undisturbed_calm c options)
      exact ⟨c', hrun⟩
    inOrder := h.inOrder
    refused := tracedApply_refused hb
    succeeds := h.succeeds
    applied := fun _ hok => (h.of_ok hok).imp id And.right
    unchanged := fun _ herror => (h.of_error herror).2
    forgotten := fun _ herror _ _ hnext => apply_calm_eq hp hm (h.of_error herror) hnext }

/-- A connection that refuses to load rows stops a staged batch at its second call. -/
theorem allOrNothing_apply_stock :
    (Table.stock .postgres).Plain ∧
      AllOrNothing Table.deliveries (Table.stock .postgres).plainEntity { parameterLimit := some 0 }
        { store := Table.stocked .postgres [4], failOn := some "COPY" }
        ({ inserted := 2, updated := 0, deleted := 0 },
          { (Table.stocked .postgres [4]).table with
            rows := [[.int64 1, .text "article", .int32 4], [.int64 2, .text "nails", .int32 7],
              [.int64 3, .text "nails", .int32 7]]
            nextIdentity := 4 }) := by
  have hp : (Table.stock .postgres).Plain := by decide +kernel
  exact ⟨hp, allOrNothing_apply hp (by decide +kernel) (by decide) (by decide)⟩

end Batch

end Tablewright
