import Tablewright.Proofs.ConnectionCalls
import Tablewright.Proofs.QueryStatements
import Tablewright.Proofs.RecordLists

/-!
# Runs of operations on rows

The operations of an entity on rows, one after the other on a connection to the store in memory,
against the same operations on the list of the records that the store holds. Each answers the same and
leaves the same records, so that any number of them do.

## Key results

- `Keeps.perform`: an operation answers what it answers on the list of records
- `performEach_records`: so do operations one after the other, in either dialect
-/

namespace Tablewright

open MemoryConnection

variable {t : Table} {Item : Type} {values : Item → List Value} {ofRow : Row → Except Fault Item}

/-- The values of a key's parameters are those of the key. -/
theorem Table.values_boundKey {key : List Value} (h : key.length = t.keyColumns.length) :
    (t.boundKey key).map (·.value) = key := by
  rw [boundKey_eq_zipWith h, List.map_zipWith, ← List.map_uncurry_zip_eq_zipWith]
  exact List.map_snd_zip (Nat.le_of_eq h)

namespace MemoryConnection

variable {c : MemoryConnection} {r : RecordList}

/-- A connection to a store that holds the records of a list, and that refuses no statement. -/
structure Keeps (c : MemoryConnection) (t : Table) (r : RecordList) : Prop where
  serves : c.store.Serves t
  keys : c.store.table.keys = t.keyColumns.map (·.name)
  accepting : c.failOn = none
  records : c.store.table.rows = r.records
  next : c.store.table.nextIdentity = r.next

/-- A connection to shelves that are empty. -/
def shelves (d : Dialect) : MemoryConnection :=
  ofTable d (.empty (Table.shelf d).qualifiedName ["number", "Code", "PIECES"] ["Code"] (some "number"))

/-- A step on a connection answers so, and it leaves the records of a list. -/
def Yields {α : Type} (c : MemoryConnection) (t : Table) (step : Operation MemoryConnection α)
    (answer : Except Fault α) (r : RecordList) : Prop :=
  ∃ c', step.run c = (answer, c') ∧ c'.Keeps t r

theorem Yields.map {α β : Type} {step : Operation MemoryConnection α} {answer : Except Fault α}
    (h : c.Yields t step answer r) (f : α → β) :
    c.Yields t (do return f (← step)) (answer.map f) r := by
  obtain ⟨c', hrun, hkeeps⟩ := h
  exact ⟨c', run_bind_pure hrun f, hkeeps⟩

/-! ## Calls -/

/-- A statement leaves the records to which it changes the store. -/
theorem Keeps.received (hc : c.Keeps t r) (sql : String) (r' : RecordList) :
    Keeps { c.received sql with store := c.store.holding r'.records r'.next } t r' := by
  obtain ⟨cancelled, heq, -⟩ := received_eq c sql
  rw [heq]
  exact ⟨hc.serves.holding r'.records r'.next, hc.keys, hc.accepting, rfl, rfl⟩

theorem Keeps.run_accepted (hc : c.Keeps t r) (command : Command) {answer : MemoryAnswer}
    {s' : MemoryStore} (hrun : (MemoryStore.run command.sql (command.parameters.map (·.value))).run
      c.store = (.ok answer, s')) :
    (run command).run c = (.ok answer, { c.received command.sql with store := s' }) := by
  have hrefusal : c.refusal? command.sql = none := by rw [refusal?, hc.accepting]
  exact MemoryConnection.run_accepted hrefusal hrun

theorem Keeps.requireDialect (hc : c.Keeps t r) :
    (connection.requireDialect t.dialect).run c = (.ok (), c) :=
  run_require_none (if_pos hc.serves.dialect)

/-- A statement that changes the records answers their number. -/
theorem Keeps.executeIn (hc : c.Keeps t r) (change : Nat × RecordList) {sql : String}
    {parameters : List Parameter} (hrun : (MemoryStore.run sql (parameters.map (·.value))).run c.store =
      (.ok { affected := change.1 }, c.store.holding change.2.records change.2.next)) :
    c.Yields t (connection.executeIn t.dialect { sql, parameters }) (.ok change.1) change.2 := by
  have haccepted := hc.run_accepted { sql, parameters } hrun
  exact ⟨_, run_executeIn hc.serves.dialect rfl haccepted, hc.received sql change.2⟩

/-- A query answers its rows and changes no records. -/
theorem Keeps.fetchIn (hc : c.Keeps t r) {sql : String} {parameters : List Parameter}
    {rows : List Row} (hrun : (MemoryStore.run sql (parameters.map (·.value))).run c.store =
      (.ok { rows }, c.store)) :
    c.Yields t (connection.fetchIn t.dialect { sql, parameters }) (.ok rows) r := by
  have haccepted := hc.run_accepted { sql, parameters } hrun
  have hsame : c.store = c.store.holding r.records r.next := by
    rw [MemoryStore.holding, ← hc.records, ← hc.next]
  refine ⟨{ c.received sql with store := c.store }, ?_, ?_⟩
  · rw [Connection.fetchIn, run_bind_ok hc.requireDialect]
    show ((fetch { sql, parameters } c).1.mapM id, (fetch { sql, parameters } c).2) = _
    rw [fetch_eq, haccepted]
    exact congrArg (·, _) (mapM_fetched { rows })
  · rw [hsame]
    exact hc.received sql r

/-! ## Operations on rows -/

theorem Keeps.insert (h : t.RecordTable) (hc : c.Keeps t r) (item : Item) :
    c.Yields t ((t.entity values ofRow).insert connection item)
      (.ok (t.insertInto (t.record (values item)) r).1)
      (t.insertInto (t.record (values item)) r).2 := by
  have hrun : (MemoryStore.run (t.entity values ofRow).texts.insert
      (((t.entity values ofRow).insertParameters item).map (·.value))).run c.store = _ :=
    MemoryStore.run_insert h.toNamed hc.serves item
  rw [hc.records, hc.next, Table.newRecords_singleton] at hrun
  exact hc.executeIn (t.insertInto (t.record (values item)) r) hrun

theorem Keeps.update (h : t.RecordTable) (hc : c.Keeps t r) (item : Item) :
    c.Yields t ((t.entity values ofRow).update connection item)
      (.ok (t.updateIn (t.record (values item)) r).1) (t.updateIn (t.record (values item)) r).2 := by
  have hrun : (MemoryStore.run (t.textOf t.rowUpdate)
      (((t.entity values ofRow).updateParameters item).map (·.value))).run c.store = _ :=
    MemoryStore.run_update h.toNamed hc.serves item
  rw [hc.records, hc.next, Table.withUpdates_singleton] at hrun
  rw [Table.update_eq_executeIn connection h.toNamed h.updatable]
  exact hc.executeIn (t.updateIn (t.record (values item)) r) hrun

theorem Keeps.delete (h : t.RecordTable) (hc : c.Keeps t r) (item : Item) :
    c.Yields t ((t.entity values ofRow).delete connection item)
      (.ok (t.deleteFrom (t.record (values item)) r).1) (t.deleteFrom (t.record (values item)) r).2 := by
  have hrun : (MemoryStore.run (t.textOf t.rowDelete)
      (((t.entity values ofRow).keyParameters item).map (·.value))).run c.store = _ :=
    MemoryStore.run_delete h.toNamed hc.serves item
  rw [hc.records, hc.next, Table.withoutDeleted_singleton] at hrun
  rw [Table.delete_eq_executeIn connection h.toNamed]
  exact hc.executeIn (t.deleteFrom (t.record (values item)) r) hrun

theorem Keeps.upsert (h : t.RecordTable) (hc : c.Keeps t r) (item : Item) :
    c.Yields t ((t.entity values ofRow).upsert connection item)
      (.ok (t.upsertIn (t.record (values item)) r).1) (t.upsertIn (t.record (values item)) r).2 := by
  have hrun := MemoryStore.run_upsertRow h hc.serves hc.keys (t.record (values item))
  have htext : (t.entity values ofRow).texts.upsert = some (t.textOf t.rowUpsert) := by
    show t.upsert.map t.textOf = _
    rw [Table.upsert_eq h, Option.map_some]
  have hvalues :=
    Table.values_bound h.distinct MemoryStore.mem_columns_of_mem_insertColumns (values item)
  rw [← hvalues, hc.records, hc.next, Table.withUpdates_singleton] at hrun
  rw [Entity.upsert, htext]
  refine hc.executeIn (t.upsertIn (t.record (values item)) r) (hrun.trans ?_)
  -- The store looks for the key as the list does.
  rw [Table.upsertIn]
  split <;> rfl

theorem Keeps.truncate (h : t.RecordTable) (hc : c.Keeps t r) :
    c.Yields t ((t.entity values ofRow).truncate connection) (.ok ()) { r with records := [] } := by
  have hrun : (MemoryStore.run (t.entity values ofRow).texts.truncate
      (([] : List Parameter).map (·.value))).run c.store = _ :=
    MemoryStore.run_truncate h.toNamed hc.serves
  rw [hc.next] at hrun
  obtain ⟨c', hexecute, hkeeps⟩ := hc.executeIn (0, { r with records := [] }) hrun
  exact ⟨c', run_bind_ok hexecute _, hkeeps⟩

theorem Keeps.find (h : t.RecordTable) (hc : c.Keeps t r) {key : List Value}
    (hkey : key.length = t.keyColumns.length) :
    c.Yields t ((t.entity values ofRow).find connection (t.boundKey key))
      (t.lookedUp ofRow key r.records) r := by
  have hrun := MemoryStore.run_rowQuery h hc.serves key
  have htext : (t.entity values ofRow).texts.find = some (t.textOf t.rowQuery) := by
    show t.find.map t.textOf = _
    rw [Table.find_eq h.toNamed, Option.map_some]
  rw [← Table.values_boundKey hkey, hc.records] at hrun
  obtain ⟨c', hfetch, hkeeps⟩ := hc.fetchIn hrun
  refine ⟨c', ?_, hkeeps⟩
  rw [Entity.find, htext]
  refine (run_bind_ok hfetch _).trans ?_
  -- The first row of the result is the first record with the key.
  rw [Table.values_boundKey hkey, List.head?_map, List.head?_filter, Table.lookedUp]
  cases r.records.find? (t.hasKey key) with
  | none => rfl
  | some record => exact run_bind_pure (run_ofExcept _ c') some

theorem Keeps.all (h : t.RecordTable) (hc : c.Keeps t r) :
    c.Yields t ((t.entity values ofRow).all connection) (r.records.mapM (t.decoded ofRow)) r := by
  have hrun : (MemoryStore.run (t.entity values ofRow).texts.select
      (([] : List Parameter).map (·.value))).run c.store = _ :=
    MemoryStore.run_select h hc.serves
  rw [hc.records] at hrun
  obtain ⟨c', hfetch, hkeeps⟩ := hc.fetchIn hrun
  refine ⟨c', ?_, hkeeps⟩
  rw [Entity.all]
  refine (run_bind_ok hfetch _).trans ?_
  rw [run_ofExcept, List.mapM_map]
  rfl

/-- An operation on rows answers what it answers on the list of records, and it leaves the records of
that list. -/
theorem Keeps.perform (values : Item → List Value) (ofRow : Row → Except Fault Item)
    (h : t.RecordTable) (hc : c.Keeps t r) {op : RowOperation Item} (hop : t.Keyed op) :
    c.Yields t (t.perform values ofRow connection op) ((t.respond values ofRow op).run r).1
      ((t.respond values ofRow op).run r).2 := by
  cases op with
  | insert item => exact (hc.insert h item).map RowAnswer.changed
  | update item => exact (hc.update h item).map RowAnswer.changed
  | delete item => exact (hc.delete h item).map RowAnswer.changed
  | upsert item => exact (hc.upsert h item).map RowAnswer.changed
  | truncate => exact (hc.truncate h).map fun _ => RowAnswer.emptied
  | find key => exact (hc.find h hop).map RowAnswer.found
  | all => exact (hc.all h).map RowAnswer.listed

/-- Operations on rows, one after the other, answer what they answer on the list of records. -/
theorem Keeps.performEach (values : Item → List Value) (ofRow : Row → Except Fault Item)
    (h : t.RecordTable) (hc : c.Keeps t r) {ops : List (RowOperation Item)}
    (hops : ∀ op ∈ ops, t.Keyed op) :
    ((t.performEach values ofRow connection ops).run c).1 =
        ((t.respondEach values ofRow ops).run r).1 ∧
      Keeps ((t.performEach values ofRow connection ops).run c).2 t
        ((t.respondEach values ofRow ops).run r).2 := by
  refine mapM_related (R := fun c r => Keeps c t r) (fun op hop c r hc => ?_) hc
  obtain ⟨c', hrun, hkeeps⟩ := hc.perform values ofRow h (hops op hop)
  show ((t.perform values ofRow connection op).run c).1 = _ ∧ _
  exact ⟨congrArg Prod.fst hrun, (congrArg Prod.snd hrun).symm ▸ hkeeps⟩

/-- The operations on rows implement a list of records, identically in both dialects: whatever rows the
store holds, operations one after the other answer what they answer on the list of these rows, and they
leave the rows of that list. What is found is decoded from rows in which each property has its own
value. -/
theorem performEach_records (values : Item → List Value) (ofRow : Row → Except Fault Item)
    (h : t.RecordTable) (d : Dialect) (hs : c.store.Serves (t.inDialect d))
    (hkeys : c.store.table.keys = t.keyColumns.map (·.name)) (haccept : c.failOn = none)
    {ops : List (RowOperation Item)} (hops : ∀ op ∈ ops, t.Keyed op) :
    (((t.inDialect d).performEach values ofRow connection ops).run c).1 =
        ((t.respondEach values ofRow ops).run c.store.table.recordList).1 ∧
      (((t.inDialect d).performEach values ofRow connection ops).run c).2.store.table.recordList =
        ((t.respondEach values ofRow ops).run c.store.table.recordList).2 ∧
      ∀ record, ∀ column ∈ t.columns,
        (t.resultRow record).readValue column.property = .ok (t.cell record column) := by
  have hc : c.Keeps (t.inDialect d) c.store.table.recordList := ⟨hs, hkeys, haccept, rfl, rfl⟩
  obtain ⟨hanswers, hkeeps⟩ := hc.performEach values ofRow (h.inDialect d) hops
  refine ⟨hanswers, ?_, fun record column => h.readValue_resultRow record⟩
  rw [MemoryTable.recordList, hkeeps.records, hkeeps.next]
  rfl

theorem recordTable_shelf : (Table.shelf .postgres).RecordTable where
  schema := by decide +kernel
  name := by decide +kernel
  columns := by decide +kernel
  distinct := by decide +kernel
  keyed := by decide +kernel
  keysNamed := by decide +kernel
  writable := by decide +kernel
  properties := by decide +kernel
  apart := by decide +kernel
  keysGiven := by decide +kernel
  updatable := by decide +kernel

/-- A day of work on shelves that are empty at first. -/
theorem performEach_records_shelf :
    ((Table.shelf .postgres).RecordTable ∧
        (shelves .postgres).store.Serves ((Table.shelf .postgres).inDialect .postgres) ∧
        (shelves .postgres).store.table.keys = (Table.shelf .postgres).keyColumns.map (·.name) ∧
        ∀ op ∈ Table.shelfWork, (Table.shelf .postgres).Keyed op) ∧
      ((((Table.shelf .postgres).inDialect .postgres).performEach id
          (Table.shelf .postgres).plainEntity.ofRow connection Table.shelfWork).run
            (shelves .postgres)).1 =
        (((Table.shelf .postgres).respondEach id (Table.shelf .postgres).plainEntity.ofRow
          Table.shelfWork).run (shelves .postgres).store.table.recordList).1 ∧
      ((((Table.shelf .postgres).inDialect .postgres).performEach id
          (Table.shelf .postgres).plainEntity.ofRow connection Table.shelfWork).run
            (shelves .postgres)).2.store.table.recordList =
        (((Table.shelf .postgres).respondEach id (Table.shelf .postgres).plainEntity.ofRow
          Table.shelfWork).run (shelves .postgres).store.table.recordList).2 ∧
      ∀ record, ∀ column ∈ (Table.shelf .postgres).columns,
        ((Table.shelf .postgres).resultRow record).readValue column.property =
          .ok ((Table.shelf .postgres).cell record column) := by
  have hs : (shelves .postgres).store.Serves ((Table.shelf .postgres).inDialect .postgres) :=
    ⟨rfl, by decide +kernel⟩
  have hkeys : (shelves .postgres).store.table.keys =
      (Table.shelf .postgres).keyColumns.map (·.name) := by decide +kernel
  have hops : ∀ op ∈ Table.shelfWork, (Table.shelf .postgres).Keyed op := by
    intro op hop
    simp only [Table.shelfWork, List.mem_cons, List.not_mem_nil, or_false] at hop
    rcases hop with rfl | rfl | rfl | rfl | rfl | rfl | rfl | rfl <;> trivial
  exact ⟨⟨recordTable_shelf, hs, hkeys, hops⟩, performEach_records id
    (Table.shelf .postgres).plainEntity.ofRow recordTable_shelf .postgres hs hkeys rfl hops⟩

/-- The second arrival of nails is an update, that of screws an insert. -/
example : ((Table.shelf .postgres).respondEach id (Table.shelf .postgres).plainEntity.ofRow
    Table.shelfWork).run ⟨[], 1⟩ =
      ([.ok (.changed 1), .ok (.changed 1), .ok (.changed 1), .ok (.changed 1),
        .ok (.found (some [.int64 1, .text "nails", .int32 8])), .ok (.changed 1),
        .ok (.listed [[.int64 2, .text "screws", .int32 4]]), .ok .emptied], ⟨[], 3⟩) := by
  rfl

end MemoryConnection

end Tablewright
