import Tablewright.Proofs.Runs
import Tablewright.Store.TableEntity

/-!
# Operations on rows and their calls

The operations of a table's entity on single rows, as data, and the calls that operations make. `Sends`
says which calls an operation makes on a connection that notes them: these and no others, in this
order, and all of them unless it fails on the way.

## Key results

- `sends_bind`, `sends_total`: operations one after the other make their calls one after the other
- `sends_perform`: an operation on a row makes the call of its statement
- `sends_insertMany`, `sends_deleteMany`: a call for each chunk of the items
-/

namespace Tablewright

variable {σ α β Item : Type}

/-- An operation on rows. -/
inductive RowOperation (Item : Type) where
  | insert (item : Item)
  | update (item : Item)
  | delete (item : Item)
  | upsert (item : Item)
  | truncate
  /-- Finds a row by the values of its key. -/
  | find (key : List Value)
  | all

/-- What an operation on rows answers. -/
inductive RowAnswer (Item : Type) where
  /-- The number of rows that were changed. -/
  | changed (count : Nat)
  | emptied
  | found (item : Option Item)
  | listed (items : List Item)

namespace Table

variable (t : Table) (values : Item → List Value) (ofRow : Row → Except Fault Item)

/-- An operation on rows, by the table's entity. -/
def perform (conn : Connection σ) : RowOperation Item → Operation σ (RowAnswer Item)
  | .insert item => do return .changed (← (t.entity values ofRow).insert conn item)
  | .update item => do return .changed (← (t.entity values ofRow).update conn item)
  | .delete item => do return .changed (← (t.entity values ofRow).delete conn item)
  | .upsert item => do return .changed (← (t.entity values ofRow).upsert conn item)
  | .truncate => do
    (t.entity values ofRow).truncate conn
    return .emptied
  | .find key => do return .found (← (t.entity values ofRow).find conn (t.boundKey key))
  | .all => do return .listed (← (t.entity values ofRow).all conn)

/-- The text of an operation's statement, which the table may lack. -/
def statementOf (x : TableTexts) : RowOperation Item → Option String
  | .insert _ => some x.insert
  | .update _ => x.update
  | .delete _ => x.delete
  | .upsert _ => x.upsert
  | .truncate => some x.truncate
  | .find _ => x.find
  | .all => some x.select

/-- The parameters of an operation's statement. -/
def parametersOf : RowOperation Item → List Parameter
  | .insert item | .upsert item => t.bound t.insertColumns (values item)
  | .update item => t.bound (t.updateColumns ++ t.keyColumns) (values item)
  | .delete item => t.bound t.keyColumns (values item)
  | .find key => t.boundKey key
  | .truncate | .all => []

/-- The call of an operation with a statement. -/
def callOf (op : RowOperation Item) (sql : String) : Call :=
  match op with
  | .find _ | .all => .fetch { sql, parameters := t.parametersOf values op }
  | _ => .execute { sql, parameters := t.parametersOf values op }

/-- The columns whose values an operation binds, in the order of its parameters. -/
def columnsOf : RowOperation Item → List Column
  | .insert _ | .upsert _ => t.insertColumns
  | .update _ => t.updateColumns ++ t.keyColumns
  | .delete _ | .find _ => t.keyColumns
  | .truncate | .all => []

/-- Whether an operation that finds a row gives one value for each column of the key. -/
def Keyed : RowOperation Item → Prop
  | .find key => key.length = t.keyColumns.length
  | _ => True

variable {t values}

/-- The values of a key, from some column on, go to the columns from there on. -/
theorem boundKey_from {front columns : List Column} (hall : t.keyColumns = front ++ columns)
    {key : List Value} (h : key.length = columns.length) :
    ((key.zipIdx front.length).filterMap fun (value, i) =>
        t.keyColumns[i % t.keyColumns.length]?.map fun c => c.parameter.bind value) =
      columns.zipWith (fun c value => c.parameter.bind value) key := by
  induction columns generalizing front key with
  | nil =>
    obtain rfl := List.length_eq_zero_iff.1 h
    rfl
  | cons c columns ih =>
    cases key with
    | nil => exact absurd h (by simp)
    | cons value key =>
      have hlt : front.length < t.keyColumns.length := by
        rw [hall, List.length_append, List.length_cons]
        omega
      have hget : t.keyColumns[front.length % t.keyColumns.length]? = some c := by
        rw [Nat.mod_eq_of_lt hlt, hall]
        simp
      have hbehind : t.keyColumns = (front ++ [c]) ++ columns := by
        rw [hall, List.append_assoc, List.singleton_append]
      have hrest := ih hbehind (Nat.succ.inj h)
      rw [List.length_append, List.length_singleton] at hrest
      simp only [List.zipIdx_cons, List.filterMap_cons, hget, Option.map_some, hrest,
        List.zipWith_cons_cons]

/-- A key with a value for each column binds one parameter for each. -/
theorem boundKey_eq_zipWith {key : List Value} (h : key.length = t.keyColumns.length) :
    t.boundKey key = t.keyColumns.zipWith (fun c value => c.parameter.bind value) key :=
  boundKey_from (List.nil_append _).symm h

/-- The parameters of an operation have the names of its columns. -/
theorem names_parametersOf {op : RowOperation Item} (h : t.Keyed op) :
    (t.parametersOf values op).map (·.name) = (t.columnsOf op).map (·.parameterName) := by
  have hbound (columns : List Column) (item : Item) :
      (t.bound columns (values item)).map (·.name) = columns.map (·.parameterName) := by
    rw [bound, List.map_map]
    rfl
  cases op with
  | find key =>
    show (t.boundKey key).map (·.name) = _
    have hlength : t.keyColumns.length ≤ key.length := Nat.le_of_eq (Eq.symm h)
    rw [boundKey_eq_zipWith h, List.map_zipWith, ← List.map_uncurry_zip_eq_zipWith]
    show (t.keyColumns.zip key).map ((·.parameterName) ∘ Prod.fst) = t.keyColumns.map _
    rw [← List.map_map, List.map_fst_zip hlength]
  | truncate => rfl
  | all => rfl
  | _ => exact hbound _ _

end Table

/-! ## Calls -/

/-- An operation on a connection that notes its calls makes these calls in this order, all of them unless
it fails. -/
def Sends (op : Operation (σ × List Call) α) (calls : List Call) : Prop :=
  ∀ s log, ∃ sent, sent <+: calls ∧ (op.run (s, log)).2.2 = log ++ sent ∧
    ((op.run (s, log)).1.isOk = true → sent = calls)

theorem sends_pure (a : α) : Sends (pure a : Operation (σ × List Call) α) [] :=
  fun _ log => ⟨[], List.prefix_rfl, (List.append_nil log).symm, fun _ => rfl⟩

/-- What fails at once makes no calls. -/
theorem sends_throw (fault : Fault) (calls : List Call) :
    Sends (throw fault : Operation (σ × List Call) α) calls :=
  fun _ log => ⟨[], List.nil_prefix, (List.append_nil log).symm, fun h => absurd h Bool.false_ne_true⟩

theorem sends_ofExcept (x : Except Fault α) :
    Sends (MonadExcept.ofExcept x : Operation (σ × List Call) α) [] := by
  cases x with
  | ok a => exact sends_pure a
  | error fault => exact sends_throw fault []

theorem sends_require (fault? : σ × List Call → Option Fault) :
    Sends (Operation.require fault?) [] := by
  intro s log
  rw [run_require]
  exact ⟨[], List.prefix_rfl, (List.append_nil log).symm, fun _ => rfl⟩

/-- Operations one after the other make their calls one after the other. -/
theorem sends_bind {op : Operation (σ × List Call) α} {rest : α → Operation (σ × List Call) β}
    {calls others : List Call} (h : Sends op calls) (hrest : ∀ a, Sends (rest a) others) :
    Sends (op >>= rest) (calls ++ others) := by
  intro s log
  obtain ⟨sent, hprefix, hlog, hall⟩ := h s log
  rw [run_bind]
  rcases hrun : op.run (s, log) with ⟨r, s', log'⟩
  rw [hrun] at hlog hall
  cases r with
  | error fault =>
    -- The calls of the rest are not made.
    exact ⟨sent, hprefix.trans (List.prefix_append _ _), hlog,
      fun hok => absurd hok Bool.false_ne_true⟩
  | ok a =>
    obtain ⟨sent', hprefix', hlog', hall'⟩ := hrest a s' log'
    obtain rfl : sent = calls := hall rfl
    obtain rfl : log' = log ++ sent := hlog
    refine ⟨sent ++ sent', (List.prefix_append_right_inj sent).2 hprefix', ?_, fun hok => ?_⟩
    · rw [hlog', List.append_assoc]
    · rw [hall' hok]

/-- An operation that asks whether it may go on makes the calls of what comes behind. -/
theorem sends_require_bind {fault? : σ × List Call → Option Fault}
    {rest : Unit → Operation (σ × List Call) α} {calls : List Call}
    (h : ∀ u, Sends (rest u) calls) : Sends (Operation.require fault? >>= rest) calls :=
  sends_bind (sends_require fault?) h

/-- An operation whose answer is used makes its own calls. -/
theorem sends_map {op : Operation (σ × List Call) α} {calls : List Call} (h : Sends op calls)
    (f : α → β) : Sends (op >>= fun a => pure (f a)) calls := by
  have hs := sends_bind h fun a => sends_pure (f a)
  rwa [List.append_nil] at hs

variable (conn : Connection σ)

theorem sends_executeIn (d : Dialect) (command : Command) :
    Sends (conn.recorded.executeIn d command) [.execute command] :=
  sends_require_bind fun _ _ _ => ⟨[.execute command], List.prefix_rfl, rfl, fun _ => rfl⟩

theorem sends_fetchIn (d : Dialect) (command : Command) :
    Sends (conn.recorded.fetchIn d command) [.fetch command] :=
  sends_require_bind fun _ _ _ => ⟨[.fetch command], List.prefix_rfl, rfl, fun _ => rfl⟩

/-- Statements one after the other, as long as none fails. -/
theorem sends_total (d : Dialect) (commands : List Command) :
    Sends (Operation.total (commands.map fun command => conn.recorded.executeIn d command))
      (commands.map .execute) := by
  induction commands with
  | nil => exact sends_pure 0
  | cons command commands ih =>
    exact sends_bind (sends_executeIn conn d command) fun n => sends_map ih (n + ·)

/-! ## Operations of an entity -/

variable (t : Table) (values : Item → List Value) (ofRow : Row → Except Fault Item)

/-- An operation whose statement the table may lack. -/
theorem sends_require_text (e : Entity Item) (operation : String) (text : Option String)
    {rest : String → Operation (σ × List Call) α} {call : String → Call}
    (h : ∀ sql, Sends (rest sql) [call sql]) :
    Sends (e.require operation text >>= rest) (text.toList.map call) := by
  cases text with
  | none => exact sends_throw _ _
  | some sql => exact h sql

/-- An operation on rows makes the call of its statement, if the table has the statement. -/
theorem sends_perform (op : RowOperation Item) :
    Sends (t.perform values ofRow conn.recorded op)
      ((Table.statementOf t.texts op).toList.map (t.callOf values op)) := by
  cases op with
  | insert item => exact sends_map (sends_executeIn conn t.dialect _) _
  | update item =>
    exact sends_map (sends_require_text _ "update" _ fun sql => sends_executeIn conn t.dialect _) _
  | delete item =>
    exact sends_map (sends_require_text _ "delete" _ fun sql => sends_executeIn conn t.dialect _) _
  | upsert item =>
    exact sends_map (sends_require_text _ "upsert" _ fun sql => sends_executeIn conn t.dialect _) _
  | truncate => exact sends_map (sends_map (sends_executeIn conn t.dialect _) _) _
  | find key =>
    refine sends_map (sends_require_text _ "find" _ fun sql => ?_) _
    refine sends_bind (sends_fetchIn conn t.dialect _) fun rows => ?_
    cases rows.head? with
    | none => exact sends_pure none
    | some row => exact sends_map (sends_ofExcept _) some
  | all =>
    exact sends_map (sends_bind (sends_fetchIn conn t.dialect _) fun rows => sends_ofExcept _) _

variable (e : Entity Item) (items : List Item)

/-- An insert of many items is a statement for each chunk of them. -/
theorem sends_insertMany :
    Sends (e.insertMany conn.recorded items)
      ((chunks e.insertBatchSize items).map fun chunk => .execute (e.insertCommand chunk none)) := by
  have h := sends_total conn e.dialect
    ((chunks e.insertBatchSize items).map fun chunk => e.insertCommand chunk none)
  rw [List.map_map, List.map_map] at h
  exact sends_require_bind fun _ => h

/-- A deletion of many items is a statement for each chunk of them, if the table has a head for it. -/
theorem sends_deleteMany :
    Sends (e.deleteMany conn.recorded items)
      (e.texts.deleteBatch.toList.flatMap fun head =>
        (chunks e.deleteBatchSize items).map fun chunk => .execute (e.deleteCommand head chunk)) := by
  rw [Entity.deleteMany]
  cases e.texts.deleteBatch with
  | none => exact sends_throw _ _
  | some head =>
    have h := sends_total conn e.dialect
      ((chunks e.deleteBatchSize items).map fun chunk => e.deleteCommand head chunk)
    rw [List.map_map, List.map_map] at h
    rw [Option.toList_some, List.flatMap_singleton]
    exact sends_require_bind fun _ => h

end Tablewright
