import Tablewright.Proofs.AssignedValues
import Tablewright.Proofs.PieceByPiece
import Tablewright.Proofs.Synchronization
import Tablewright.Proofs.UpsertStatements

/-!
# Identities over a run

The changes that an entity makes to its table, one after the other, and the integers that the store
assigns to rows on the way. Each change may fail, at any of its statements, and it fails for itself: the
changes behind it are made all the same. Whatever comes of them, no integer is assigned twice.

## Key results

- `advancing_make`: what one change does to the table, by whatever statements and with whatever answer
- `advances_storeAfter`: and what a run of changes does
- `identities_never_repeat`: the integers of the rows over runs of any length
-/

namespace Tablewright

open scoped List
open MemoryConnection

/-- A change that an entity makes to its table. -/
inductive EntityChange (Item : Type) where
  | insert (item : Item)
  | insertMany (items : List Item)
  | update (item : Item)
  | delete (item : Item)
  | deleteMany (items : List Item)
  | upsert (item : Item)
  | truncate
  | synchronize (batch : Batch Item) (options : SyncOptions)

namespace EntityChange

variable {Item σ : Type}

/-- Makes the change. Its answer is left aside. -/
def make (e : Entity Item) (conn : Connection σ) : EntityChange Item → Operation σ Unit
  | insert item => do let _ ← e.insert conn item
  | insertMany items => do let _ ← e.insertMany conn items
  | update item => do let _ ← e.update conn item
  | delete item => do let _ ← e.delete conn item
  | deleteMany items => do let _ ← e.deleteMany conn items
  | upsert item => do let _ ← e.upsert conn item
  | truncate => e.truncate conn
  | synchronize batch options => do let _ ← batch.apply e conn options

/-- Whether the change may remove rows. -/
def isRemoval : EntityChange Item → Bool
  | insert _ | insertMany _ | update _ | upsert _ => false
  | delete _ | deleteMany _ | truncate => true
  | synchronize batch _ => batch.any (·.kind = .delete)

/-- The store behind changes, each of them made over a connection to the store that the ones in front of
it have left. Of the connection itself no more is said: it may refuse statements, take its time, be
outside of a transaction or be cancelled. -/
def storeAfter (e : Entity Item) :
    List (MemoryConnection × EntityChange Item) → MemoryStore → MemoryStore
  | [], s => s
  | (c, change) :: calls, s =>
    storeAfter e calls ((change.make e connection).run { c with store := s }).2.store

end EntityChange

/-- A table of goods that are known by their article; their identifiers come from the store alone. -/
def Table.catalogue (d : Dialect) : Table :=
  { Table.stock d with keys := ["article"] }

/-- A connection to two kinds of goods, whose identifiers leave gaps. -/
def Table.catalogued (d : Dialect) : MemoryConnection :=
  .ofTable d ((MemoryTable.empty (catalogue d).qualifiedName ((catalogue d).columns.map (·.name))
    ["article"] (some "id")).withRows
      [[.int32 4, .text "nails", .int32 7], [.int64 9, .text "screws", .int32 1]])

/-! ## Operations that lead to a later table -/

namespace MemoryConnection

variable {t : Table} {removing : Bool} {α β : Type} {m : MemoryTable} {c : MemoryConnection}
  {options : SyncOptions} {s' : MemoryStore}

/-- Whatever the operation answers, it leaves a later table than it found. -/
def Advancing (t : Table) (removing : Bool) (op : Operation MemoryConnection α) : Prop :=
  ∀ c : MemoryConnection, c.store.table.Holds t →
    c.store.table.Advances removing (op.run c).2.store.table

theorem advancing_pure (a : α) : Advancing t removing (pure a) :=
  fun c _ => .refl c.store.table

theorem Advancing.bind {x : Operation MemoryConnection α} {f : α → Operation MemoryConnection β}
    (hx : Advancing t removing x) (hf : ∀ a, Advancing t removing (f a)) :
    Advancing t removing (x >>= f) := by
  intro c hc
  have hfirst := hx c hc
  rw [run_bind]
  -- The second operation finds the table that the first one has left.
  rcases hr : x.run c with ⟨r, c'⟩
  rw [hr] at hfirst
  cases r with
  | ok a => exact hfirst.trans (hf a c' (hfirst.holds hc))
  | error fault => exact hfirst

theorem advancing_require (fault? : MemoryConnection → Option Fault) :
    Advancing t removing (Operation.require fault?) := by
  intro c _
  rw [run_require]
  exact .refl c.store.table

theorem advancing_total {steps : List (Operation MemoryConnection Nat)}
    (h : ∀ step ∈ steps, Advancing t removing step) :
    Advancing t removing (Operation.total steps) := by
  induction steps with
  | nil => exact advancing_pure 0
  | cons step steps ih =>
    have hrest := ih fun other hm => h other (List.mem_cons_of_mem _ hm)
    exact (h step List.mem_cons_self).bind fun n => hrest.bind fun others => advancing_pure _

/-- An attempt leaves the table as it was, or it leaves the one that the store makes. -/
theorem Attempt.advances {a : α} {r : Except Fault α × MemoryConnection}
    (h : Attempt options c s' a r) (hc : m.Advances removing c.store.table)
    (hs : m.Advances removing s'.table) : m.Advances removing r.2.store.table := by
  cases h with
  | failed fault c' hstore _ => rwa [hstore]
  | done c' hstore _ => rwa [hstore]

/-- What follows an attempt is only reached with the store that the attempt was to make. -/
theorem Attempt.bind_advances {a : α} {step : Operation MemoryConnection α}
    {rest : α → Operation MemoryConnection β} (h : Attempt options c s' a (step.run c))
    (hc : m.Advances removing c.store.table)
    (hrest : ∀ c', c'.store = s' → m.Advances removing ((rest a).run c').2.store.table) :
    m.Advances removing ((step >>= rest).run c).2.store.table := by
  rw [run_bind]
  rcases hr : step.run c with ⟨r, c'⟩
  rw [hr] at h
  cases h with
  | failed fault c' hstore _ => rwa [← hstore] at hc
  | done c' hstore _ => exact hrest c' hstore

/-- A check that fails ends the operation where it is. -/
theorem advances_require {fault? : MemoryConnection → Option Fault}
    {rest : Unit → Operation MemoryConnection β} (hc : m.Advances removing c.store.table)
    (hrest : fault? c = none → m.Advances removing ((rest ()).run c).2.store.table) :
    m.Advances removing ((Operation.require fault? >>= rest).run c).2.store.table := by
  cases hf : fault? c with
  | some fault =>
    rw [run_bind_error (run_require_some hf)]
    exact hc
  | none =>
    rw [run_bind_ok (run_require_none hf)]
    exact hrest hf

variable {d : Dialect} {answer : MemoryAnswer}

theorem advances_requireDialect {rest : Unit → Operation MemoryConnection β}
    (hc : m.Advances removing c.store.table)
    (hrest : c.store.dialect = d → m.Advances removing ((rest ()).run c).2.store.table) :
    m.Advances removing ((connection.requireDialect d >>= rest).run c).2.store.table := by
  refine advances_require hc fun hdialect => hrest ?_
  by_contra hd
  exact absurd ((if_neg hd).symm.trans hdialect) (Option.some_ne_none _)

theorem attempt_executeIn (command : Command) (hd : c.store.dialect = d)
    (htimeout : command.timeout = options.timeout)
    (hrun : (MemoryStore.run command.sql (command.parameters.map (·.value))).run c.store =
      (.ok answer, s')) :
    Attempt options c s' answer.affected ((connection.executeIn d command).run c) := by
  rw [Connection.executeIn, run_bind_ok (run_requireDialect hd)]
  exact attempt_execute htimeout hrun

theorem attempt_fetchIn (options : SyncOptions) (command : Command) (hd : c.store.dialect = d)
    (hrun : (MemoryStore.run command.sql (command.parameters.map (·.value))).run c.store =
      (.ok answer, s')) :
    Attempt options c s' answer.rows ((connection.fetchIn d command).run c) := by
  rw [Connection.fetchIn, run_bind_ok (run_requireDialect hd)]
  exact (attempt_fetch options hrun).1

/-- A statement that leads to a later table, wherever the store serves the table. -/
theorem advancing_executeIn {command : Command}
    (h : ∀ s : MemoryStore, s.Serves t → ∃ answer s',
      (MemoryStore.run command.sql (command.parameters.map (·.value))).run s = (.ok answer, s') ∧
        s.table.Advances removing s'.table) :
    Advancing t removing (connection.executeIn t.dialect command) := by
  intro c hc
  refine advances_requireDialect (.refl _) fun hd => ?_
  obtain ⟨answer, s', hrun, hs⟩ := h c.store ⟨hd, hc⟩
  have hattempt : Attempt { timeout := command.timeout } c s' answer.affected
      ((execute command).run c) := attempt_execute rfl hrun
  exact hattempt.advances (.refl _) hs

/-- A text that the table may lack. -/
theorem advancing_requireText {Item : Type} {e : Entity Item} {operation : String}
    {text : Option String} {f : String → Operation MemoryConnection α}
    (h : ∀ sql ∈ text, Advancing t removing (f sql)) :
    Advancing t removing (e.require operation text >>= f) := by
  cases text with
  | none => exact fun c _ => .refl c.store.table
  | some sql => exact h sql rfl

/-! ## The changes of an entity -/

section Changes

variable {Item : Type} {values : Item → List Value} {ofRow : Row → Except Fault Item} {column : Column}

theorem advancing_insert (hp : t.Plain) (hcolumn : t.identityColumn? = some column) (item : Item) :
    Advancing t removing ((t.entity values ofRow).insert connection item) := by
  refine advancing_executeIn fun s hs => ?_
  have hrun : (MemoryStore.run (t.entity values ofRow).texts.insert
      (((t.entity values ofRow).insertParameters item).map (·.value))).run s = _ :=
    MemoryStore.run_insert hp.named hs item
  exact ⟨_, _, hrun,
    MemoryTable.advances_newRecords hp.distinct hs.table hcolumn [t.record (values item)]⟩

theorem advancing_insertMany (hp : t.Plain) (hcolumn : t.identityColumn? = some column)
    (items : List Item) :
    Advancing t removing ((t.entity values ofRow).insertMany connection items) := by
  refine (advancing_require _).bind fun _ => advancing_total fun step hstep => ?_
  obtain ⟨chunk, hchunk, rfl⟩ := List.mem_map.1 hstep
  refine advancing_executeIn fun s hs =>
    ⟨_, _, MemoryStore.run_insertCommand hp.named hs (ne_nil_of_mem_chunks hchunk) none, ?_⟩
  have hinserted : s.table.Advances removing _ := MemoryTable.advances_newRecords hp.distinct hs.table
    hcolumn (chunk.map fun item => t.record (values item))
  rwa [List.length_map] at hinserted

theorem advancing_update (hp : t.Plain) (hcolumn : t.identityColumn? = some column) (item : Item) :
    Advancing t removing ((t.entity values ofRow).update connection item) := by
  by_cases hupdate : t.updateColumns = []
  · -- Without a column to write there is no statement.
    refine advancing_requireText fun sql hsql => ?_
    have hnone : (t.entity values ofRow).texts.update = none := by
      show t.update.map t.textOf = none
      rw [Table.update, hupdate]
      rfl
    rw [hnone] at hsql
    exact absurd hsql (Option.not_mem_none sql)
  · rw [Table.update_eq_executeIn connection hp.named hupdate]
    refine advancing_executeIn fun s hs => ?_
    have hrun : (MemoryStore.run (t.textOf t.rowUpdate)
        (((t.entity values ofRow).updateParameters item).map (·.value))).run s = _ :=
      MemoryStore.run_update hp.named hs item
    exact ⟨_, _, hrun, MemoryTable.advances_withUpdates hp.distinct hs.table hcolumn _⟩

theorem advancing_delete (hp : t.Plain) (item : Item) :
    Advancing t true ((t.entity values ofRow).delete connection item) := by
  rw [Table.delete_eq_executeIn connection hp.named]
  refine advancing_executeIn fun s hs => ?_
  have hrun : (MemoryStore.run (t.textOf t.rowDelete)
      (((t.entity values ofRow).keyParameters item).map (·.value))).run s = _ :=
    MemoryStore.run_delete hp.named hs item
  exact ⟨_, _, hrun, MemoryTable.advances_withoutDeleted fun h => Bool.noConfusion h⟩

theorem advances_stepEach {step : α → MemoryTable → Nat × MemoryTable}
    (h : ∀ x m, MemoryTable.Advances removing m (step x m).2) (m : MemoryTable) (xs : List α) :
    m.Advances removing (m.stepEach step xs).2 := by
  induction xs generalizing m with
  | nil => exact .refl m
  | cons x xs ih => exact (h x m).trans (ih _)

theorem advancing_deleteMany (hp : t.Plain) (items : List Item) :
    Advancing t true ((t.entity values ofRow).deleteMany connection items) := by
  refine advancing_requireText fun head hhead => ?_
  -- There is a statement only for a key of a single column.
  obtain ⟨key, hkey⟩ : ∃ key, t.keyColumns = [key] := by
    obtain ⟨text, htext, -⟩ := Option.map_eq_some_iff.1 hhead
    rw [Table.deleteBatch] at htext
    split at htext
    · exact ⟨_, ‹_›⟩
    · cases htext
  obtain rfl := Option.some.inj ((Table.deleteBatch_eq hkey).symm.trans hhead)
  refine (advancing_require _).bind fun _ => advancing_total fun step hstep => ?_
  obtain ⟨chunk, -, rfl⟩ := List.mem_map.1 hstep
  refine advancing_executeIn fun s hs =>
    ⟨_, _, (Table.steps_deleteCommand ofRow hp.named hkey chunk).run s hs.answers, ?_⟩
  exact advances_stepEach (fun item m => m.advances_delete _ _) s.table chunk

theorem advancing_upsert (hp : t.Plain) (hcolumn : t.identityColumn? = some column) (item : Item) :
    Advancing t removing ((t.entity values ofRow).upsert connection item) := by
  refine advancing_requireText fun sql hsql => ?_
  obtain ⟨text, htext, rfl⟩ := Option.map_eq_some_iff.1 hsql
  rw [Table.upsert_eq_upsertBy] at htext
  split at htext
  · cases htext
  · obtain rfl := Option.some.inj htext
    have hvalues := Table.values_bound hp.distinct MemoryStore.mem_columns_of_mem_insertColumns
      (values item)
    refine advancing_executeIn fun s hs => ⟨_, _, MemoryStore.run_upsertBy hp.named hs.answers
      (fun c => Table.mem_columns_of_mem_upsertKeys) _, ?_⟩
    show s.table.Advances removing (s.table.upsert _ ((t.bound t.insertColumns (values item)).map _)).2
    rw [hvalues]
    exact MemoryTable.advances_upsert hp.distinct hs.table hcolumn _

theorem advancing_truncate (hp : t.Plain) :
    Advancing t true ((t.entity values ofRow).truncate connection) := by
  have hexecute : Advancing t true (connection.executeIn t.dialect { sql := t.textOf t.truncate }) :=
    advancing_executeIn fun s hs =>
      ⟨_, _, MemoryStore.run_truncate hp.named hs, s.table.advances_truncate⟩
  exact hexecute.bind fun _ => advancing_pure ()

/-- A batch in one statement inserts all of its items. -/
theorem advances_applyAtOnce (hp : t.Plain) (hcolumn : t.identityColumn? = some column)
    (hs : c.store.Serves t) {b : Batch Item}
    (hplan : b.plan (t.entity values ofRow) options = .fastPath) :
    c.store.table.Advances removing
      ((b.applyAtOnce (t.entity values ofRow) connection options).run c).2.store.table := by
  have hitems : b.map (·.item) ≠ [] := by simpa using (Batch.insertOnly_of_fastPath hplan).1
  have hinserted : c.store.table.Advances removing _ := MemoryTable.advances_newRecords hp.distinct
    hs.table hcolumn ((b.map (·.item)).map fun item => t.record (values item))
  rw [List.length_map] at hinserted
  refine advances_require (.refl _) fun _ => ?_
  have hrun : (MemoryStore.run
      ((t.entity values ofRow).insertCommand (b.map (·.item)) options.timeout).sql
      (((t.entity values ofRow).insertCommand (b.map (·.item)) options.timeout).parameters.map
        (·.value))).run c.store = _ :=
    MemoryStore.run_insertCommand hp.named hs hitems options.timeout
  have hsent : Attempt options c _ _ ((connection.executeIn t.dialect
      ((t.entity values ofRow).insertCommand (b.map (·.item)) options.timeout)).run c) :=
    attempt_executeIn _ hs.dialect rfl hrun
  refine hsent.bind_advances (.refl _) fun c' hstore => ?_
  show c.store.table.Advances removing c'.store.table
  rw [hstore]
  exact hinserted

/-- A batch in three calls changes the table with the last one. -/
theorem advances_applyStaged (hp : t.Plain) (hcolumn : t.identityColumn? = some column)
    (hs : c.store.Serves t) {b : Batch Item}
    (hkeep : removing = false → recordsOf .delete (b.records (t.entity values ofRow)) = [])
    (indexed : Bool) :
    c.store.table.Advances removing
      ((b.applyStaged (t.entity values ofRow) connection options (Batch.stagingOf t) indexed).run
        c).2.store.table := by
  have hcreate := MemoryStore.run_stagingCreate hp hs
  have hload := MemoryStore.run_load (s := c.store) t.stagingText t.stagingColumns []
    (b.stagedRows (t.entity values ofRow))
  have happly := Batch.run_applyLoaded values ofRow hp hs b indexed
  have hsynced := MemoryTable.advances_synced hp.distinct hs.table hcolumn hkeep
  rw [List.nil_append] at hload
  refine advances_require (.refl _) fun _ => ?_
  have hcreated : Attempt options c _ _ _ := attempt_executeIn
    { sql := (Batch.stagingOf t).create, timeout := options.timeout } hs.dialect rfl hcreate
  refine hcreated.bind_advances (.refl _) fun c₁ hstore₁ => ?_
  -- The staging table comes beside the table.
  have hc₁ : c.store.table.Advances removing c₁.store.table := by
    rw [hstore₁]
    exact .refl c.store.table
  rw [← hstore₁] at hload
  refine advances_require hc₁ fun _ => ?_
  have hloaded : Attempt options c₁ _ _ ((bulkLoad
      { table := (Batch.stagingOf t).table, columns := (Batch.stagingOf t).columns
        rows := b.stagedRows (t.entity values ofRow), timeout := options.timeout }).run c₁) :=
    attempt_bulkLoad hload
  refine hloaded.bind_advances hc₁ fun c₂ hstore₂ => ?_
  have hc₂ : c.store.table.Advances removing c₂.store.table := by
    rw [hstore₂]
    exact .refl c.store.table
  have hdialect : c₂.store.dialect = t.dialect := by
    rw [hstore₂]
    exact hs.dialect
  rw [← hstore₂] at happly
  refine advances_require hc₂ fun _ => ?_
  have hfetched := attempt_fetchIn options
    { sql := if indexed then (Batch.stagingOf t).applyIndexed else (Batch.stagingOf t).apply
      timeout := options.timeout } hdialect happly
  refine hfetched.bind_advances hc₂ fun c₃ hstore₃ => ?_
  -- Reading the counts may fail, but it is no statement.
  show c.store.table.Advances removing ((MonadExcept.ofExcept (SyncCounts.ofRow _) :
    Operation MemoryConnection SyncCounts).run c₃).2.store.table
  rw [run_ofExcept, hstore₃]
  exact hsynced

theorem advancing_apply (hp : t.Plain) (hcolumn : t.identityColumn? = some column) (b : Batch Item)
    (options : SyncOptions)
    (hkeep : removing = false → recordsOf .delete (b.records (t.entity values ofRow)) = []) :
    Advancing t removing (b.apply (t.entity values ofRow) connection options) := by
  intro c hc
  refine advances_require (.refl _) fun _ => ?_
  refine advances_requireDialect (.refl _) fun hd => ?_
  have hs : c.store.Serves t := ⟨hd, hc⟩
  cases hplan : b.plan (t.entity values ofRow) options with
  | empty => exact .refl c.store.table
  | fastPath => exact advances_applyAtOnce hp hcolumn hs hplan
  | staging indexed =>
    rw [Batch.staging_entity hp]
    exact advances_applyStaged hp hcolumn hs hkeep indexed

/-- Whatever change is made, by whatever statements and with whatever answer. -/
theorem advancing_make (values : Item → List Value) (ofRow : Row → Except Fault Item) (hp : t.Plain)
    (hcolumn : t.identityColumn? = some column) (change : EntityChange Item) :
    Advancing t change.isRemoval (change.make (t.entity values ofRow) connection) := by
  cases change with
  | insert item => exact (advancing_insert hp hcolumn item).bind fun _ => advancing_pure ()
  | insertMany items => exact (advancing_insertMany hp hcolumn items).bind fun _ => advancing_pure ()
  | update item => exact (advancing_update hp hcolumn item).bind fun _ => advancing_pure ()
  | delete item => exact (advancing_delete hp item).bind fun _ => advancing_pure ()
  | deleteMany items => exact (advancing_deleteMany hp items).bind fun _ => advancing_pure ()
  | upsert item => exact (advancing_upsert hp hcolumn item).bind fun _ => advancing_pure ()
  | truncate => exact advancing_truncate hp
  | synchronize batch options =>
    refine (advancing_apply hp hcolumn batch options fun hnone => ?_).bind fun _ => advancing_pure ()
    have hnone : batch.any (·.kind = .delete) = false := hnone
    rw [recordsOf, Batch.records, List.filter_map, List.map_map, List.map_eq_nil_iff,
      List.filter_eq_nil_iff]
    exact List.any_eq_false.1 hnone

end Changes

end MemoryConnection

/-! ## Runs of changes -/

namespace EntityChange

variable {Item : Type} {t : Table} {column : Column}

/-- Changes one after the other lead from one table to a later one. -/
theorem advances_storeAfter (values : Item → List Value) (ofRow : Row → Except Fault Item)
    (hp : t.Plain) (hcolumn : t.identityColumn? = some column)
    (calls : List (MemoryConnection × EntityChange Item)) {s : MemoryStore} (hs : s.table.Holds t) :
    s.table.Advances (calls.any (·.2.isRemoval))
      (storeAfter (t.entity values ofRow) calls s).table := by
  -- Each change finds the table that those in front of it have left.
  induction calls generalizing s with
  | nil => exact .refl s.table
  | cons call calls ih =>
    obtain ⟨c, change⟩ := call
    have hfirst := advancing_make values ofRow hp hcolumn change { c with store := s } hs
    have hrest := ih (hfirst.holds hs)
    rw [List.any_cons]
    exact (hfirst.mono fun hkeep => (Bool.or_eq_false_iff.1 hkeep).1).trans
      (hrest.mono fun hkeep => (Bool.or_eq_false_iff.1 hkeep).2)

/-- Store-assigned identities are never repeated. The table of a model with an assigned column is seeded
with rows that hold integers of their own, and changes are made, each with success or not, as long as the
counter is a number of 64 bits. Behind any of them each row holds an integer of its own below the counter.
From there on the rows keep these integers or hold values that the store assigns to them, all different;
where nothing is removed, each row keeps its integer. An integer that no row holds any more comes back to
none. -/
theorem identities_never_repeat (values : Item → List Value) (ofRow : Row → Except Fault Item)
    (hp : t.Plain) (hcolumn : t.identityColumn? = some column) (keys : List String)
    (rows : List (List Value)) (s : MemoryStore)
    (hs : s.table = (MemoryTable.empty t.qualifiedName (t.columns.map (·.name)) keys
      (some column.name)).withRows rows)
    (hdistinct : s.table.identities.Nodup) (hintegers : none ∉ s.table.identities)
    (before between after : List (MemoryConnection × EntityChange Item)) :
    let s₁ := storeAfter (t.entity values ofRow) before s
    let s₂ := storeAfter (t.entity values ofRow) between s₁
    let s₃ := storeAfter (t.entity values ofRow) after s₂
    s₃.table.nextIdentity < twoTo 63 →
      s₁.table.Identified ∧ s₁.table.nextIdentity ≤ s₂.table.nextIdentity ∧
      s₂.table.identities <+ s₁.table.identities ++ s₁.table.assignedUntil s₂.table ∧
      (s₁.table.identities ++ s₁.table.assignedUntil s₂.table).Nodup ∧
      ((∀ call ∈ between, call.2.isRemoval = false) →
        s₁.table.identities <+: s₂.table.identities) ∧
      ∀ identity ∈ s₁.table.identities, identity ∉ s₂.table.identities →
        identity ∉ s₃.table.identities := by
  intro s₁ s₂ s₃ hhigh
  have hempty : (MemoryTable.empty t.qualifiedName (t.columns.map (·.name)) keys
      (some column.name)).Holds t := ⟨rfl, rfl, by rw [hcolumn]; rfl⟩
  have hholds : s.table.Holds t := by
    rw [hs]
    exact hempty.seeded rows
  have hposition := MemoryTable.identityPosition?_eq hempty
  rw [hcolumn, Option.map_some] at hposition
  have hseeded : s.table.Identified ∧ -twoTo 63 ≤ s.table.nextIdentity := by
    rw [hs] at hdistinct hintegers ⊢
    exact MemoryTable.identified_withRows hposition hdistinct hintegers
  -- The counter goes from the seeds to the end through all the tables between.
  have hfirst := advances_storeAfter values ofRow hp hcolumn before hholds
  have hholds₁ := hfirst.holds hholds
  have hsecond := advances_storeAfter values ofRow hp hcolumn between hholds₁
  have hthird := advances_storeAfter values ofRow hp hcolumn after (hsecond.holds hholds₁)
  have hhigh₂ : s₂.table.nextIdentity < twoTo 63 := hthird.counter.trans_lt hhigh
  have hlow₁ : -twoTo 63 ≤ s₁.table.nextIdentity := hseeded.2.trans hfirst.counter
  have hlow₂ : -twoTo 63 ≤ s₂.table.nextIdentity := hlow₁.trans hsecond.counter
  have hidentified : s₁.table.Identified :=
    hseeded.1.advances hfirst hseeded.2 (hsecond.counter.trans_lt hhigh₂)
  refine ⟨hidentified, hsecond.counter, hsecond.identities hlow₁ hhigh₂,
    hidentified.nodup_assignedUntil _, fun hkeep => hsecond.keeps ?_, fun identity hmem hgone => ?_⟩
  · rw [List.any_eq_false]
    exact fun call hcall => by rw [hkeep call hcall]; exact Bool.false_ne_true
  · obtain ⟨n, rfl, hn⟩ := hidentified.below identity hmem
    exact hthird.notMem hlow₂ hhigh (hn.trans_le hsecond.counter) hgone

/-- Goods are added, once in vain, and all of them are cleared away; those that come back get a new
identifier. -/
theorem identities_never_repeat_catalogue :
    let ofRow := (Table.catalogue .postgres).plainEntity.ofRow
    let e := (Table.catalogue .postgres).entity id ofRow
    let c := Table.catalogued .postgres
    let bolts := [.null, .text "bolts", .int32 5]
    let s₁ := storeAfter e [({ c with failOn := some "ON" }, .upsert bolts), (c, .upsert bolts)] c.store
    let s₂ := storeAfter e [(c, .truncate)] s₁
    let s₃ := storeAfter e [(c, .insert bolts)] s₂
    s₁.table.identities = [some 4, some 9, some 10] ∧ s₃.table.identities = [some 11] ∧
      s₁.table.Identified ∧
      ∀ identity ∈ s₁.table.identities, identity ∉ s₂.table.identities →
        identity ∉ s₃.table.identities := by
  have hp : (Table.catalogue .postgres).Plain := by decide +kernel
  have hcolumn : (Table.catalogue .postgres).identityColumn? =
      some (.ofProperty "id" (.postgres .bigInt)) := rfl
  intro ofRow e c bolts s₁ s₂ s₃
  have hrun : s₁.table.identities = [some 4, some 9, some 10] ∧ s₃.table.identities = [some 11] ∧
      s₃.table.nextIdentity < twoTo 63 := by
    unfold s₃ s₂ s₁ bolts c e ofRow
    decide +kernel
  have hhigh (s : MemoryStore) (hs : s = s₃) : s.table.nextIdentity < twoTo 63 := by
    rw [hs]
    exact hrun.2.2
  obtain ⟨hidentified, -, -, -, -, hgone⟩ := identities_never_repeat id ofRow hp hcolumn ["article"]
    [[.int32 4, .text "nails", .int32 7], [.int64 9, .text "screws", .int32 1]] c.store rfl
    (by unfold c; decide +kernel) (by unfold c; decide +kernel)
    [({ c with failOn := some "ON" }, .upsert bolts), (c, .upsert bolts)] [(c, .truncate)]
    [(c, .insert bolts)] (hhigh _ rfl)
  exact ⟨hrun.1, hrun.2.1, hidentified, hgone⟩

end EntityChange

end Tablewright
