import Tablewright.Memory.Connection
import Tablewright.Proofs.RowOperations
import Tablewright.Proofs.StatementFragments
import Tablewright.Store.Sync

/-!
# Placeholders and parameters

The placeholders of a statement, read from left to right outside of its quoted names, are those of the
parameters that are sent with it. For statements on one row a parameter has the name of its column; for
statements on many rows it has that of its position, and there are as many as the rows have values.

## Key results

- `binds_statementOf`: the statements on one row bind their columns in order
- `placeholdersIn_valueGroups`: the values of many rows are numbered through
- `calls_bind`: every statement that is sent has the placeholders of its parameters
-/

namespace Tablewright

open Sql Statement

variable {σ Item : Type} {d : Dialect}

/-- The placeholders of parameters with names, in order. -/
def placeholdersOf (d : Dialect) (names : List String) : List String :=
  names.zipIdx.map fun (name, i) => d.namedPlaceholder name (i + 1)

/-- The names of a number of parameters by their positions. -/
def positionalNames (d : Dialect) (count : Nat) : List String :=
  (List.range count).map fun k => d.positionalName (k + 1)

/-- A command's parameters have these names, and its statement has exactly their placeholders. -/
structure Command.Binds (d : Dialect) (c : Command) (names : List String) : Prop where
  placeholders : placeholdersIn d c.sql = placeholdersOf d names
  parameters : c.parameters.map (·.name) = names

/-- A call whose command binds parameters with these names. -/
def Call.Binds (d : Dialect) (names : List String) : Call → Prop
  | .execute command | .fetch command => command.Binds d names
  | .bulkLoad _ => False

/-! ## Placeholders of names -/

/-- By position the placeholders are the numbers from one on, whatever the names are. -/
theorem placeholdersOf_postgres (names : List String) :
    placeholdersOf .postgres names =
      (List.range names.length).map fun k => "$" ++ Text.numeral (k + 1) := by
  rw [List.range_eq_range', ← List.zipIdx_map_snd 0 names, List.map_map]
  rfl

/-- By name they are the names. -/
theorem placeholdersOf_sqlServer (names : List String) :
    placeholdersOf .sqlServer names = names.map ("@" ++ ·) := by
  conv => rhs; rw [← List.zipIdx_map_fst 0 names, List.map_map]
  rfl

theorem length_positionalNames (d : Dialect) (count : Nat) :
    (positionalNames d count).length = count := by
  rw [positionalNames, List.length_map, List.length_range]

/-- The placeholders of numbered parameters are numbered. -/
theorem placeholdersOf_positionalNames (d : Dialect) (count : Nat) :
    placeholdersOf d (positionalNames d count) =
      (List.range count).map fun k => d.placeholder (k + 1) := by
  cases d with
  | sqlServer =>
    have hmark : "@p" = "@" ++ "p" := by decide
    rw [placeholdersOf_sqlServer, positionalNames, List.map_map]
    refine List.map_congr_left fun k _ => ?_
    rw [Function.comp_apply, Dialect.positionalName, Dialect.placeholder, hmark, String.append_assoc]
  | postgres =>
    rw [placeholdersOf_postgres, length_positionalNames]
    rfl

theorem placeholders_columnSlots (columns : List Column) :
    (columnSlots columns 1).map (fun p => d.namedPlaceholder p.1 p.2) =
      placeholdersOf d (columns.map (·.parameterName)) := by
  rw [columnSlots, placeholdersOf, List.zipIdx_map, List.map_map, List.map_map]
  refine List.map_congr_left fun p _ => ?_
  show d.namedPlaceholder p.1.parameterName (1 + p.2) = _
  rw [Nat.add_comm]
  rfl

/-- Columns behind others go on with the next position. -/
theorem columnSlots_append (columns others : List Column) :
    columnSlots columns 1 ++ columnSlots others (columns.length + 1) =
      columnSlots (columns ++ others) 1 := by
  rw [columnSlots, columnSlots, columnSlots, List.zipIdx_append, List.map_append, Nat.zero_add,
    @List.zipIdx_eq_map_add _ others columns.length, List.map_map]
  congr 1
  refine List.map_congr_left fun p _ => ?_
  show (p.1.parameterName, columns.length + 1 + p.2) = (p.1.parameterName, 1 + (columns.length + p.2))
  rw [Nat.add_comm columns.length 1, Nat.add_assoc]

theorem placeholders_mergeSlots (columns : List Column) :
    (Table.mergeSlots columns).map (fun p => Dialect.sqlServer.namedPlaceholder p.1 p.2) =
      placeholdersOf .sqlServer (columns.map (·.parameterName)) := by
  rw [placeholdersOf_sqlServer, Table.mergeSlots, List.map_map, List.map_map]
  rfl

/-! ## Statements on one row -/

namespace Table

variable {t : Table} {values : Item → List Value}

/-- A statement with the positions of columns has the placeholders of their parameters. -/
theorem placeholdersIn_textOf {s : Statement} {names : List String} {columns : List Column}
    (h : Shows t.dialect rowChars s names (columnSlots columns 1)) :
    placeholdersIn t.dialect (t.textOf s) =
      placeholdersOf t.dialect (columns.map (·.parameterName)) := by
  rw [textOf, h.placeholdersIn_text, placeholders_columnSlots]

theorem placeholdersIn_upsert {sql : String} (h : sql ∈ t.texts.upsert) :
    placeholdersIn t.dialect sql =
      placeholdersOf t.dialect (t.insertColumns.map (·.parameterName)) := by
  obtain ⟨s, hs, rfl⟩ := Option.map_eq_some_iff.1 h
  rw [upsert] at hs
  split at hs
  · exact absurd hs (by simp)
  · split at hs
    · -- The merge binds by name, so that it does not matter that it has no positions.
      rename_i hstrategy
      have hd : t.dialect = .sqlServer := by
        revert hstrategy
        cases t.dialect <;> simp [Dialect.upsertStrategy]
      rw [← Option.some.inj hs, textOf, (shows_mergeUpsert _).placeholdersIn_text, hd,
        placeholders_mergeSlots]
    · rw [← Option.some.inj hs]
      exact placeholdersIn_textOf (shows_conflictUpsert _)

/-- The statements on one row bind their columns in order. -/
theorem placeholdersIn_statementOf (op : RowOperation Item) {sql : String}
    (h : sql ∈ statementOf t.texts op) :
    placeholdersIn t.dialect sql =
      placeholdersOf t.dialect ((t.columnsOf op).map (·.parameterName)) := by
  have hif {condition : Bool} {s : Statement}
      (h : sql ∈ (if condition then none else some s).map t.textOf) : sql = t.textOf s := by
    cases condition with
    | true => simp at h
    | false => simpa using h.symm
  cases op with
  | insert item =>
    rw [← Option.some.inj h]
    exact placeholdersIn_textOf shows_insert
  | update item =>
    have hs := shows_rowUpdate (d := t.dialect) (t := t)
    rw [columnSlots_append] at hs
    rw [hif (s := t.rowUpdate) h]
    exact placeholdersIn_textOf hs
  | delete item =>
    rw [hif (s := t.rowDelete) h]
    exact placeholdersIn_textOf shows_rowDelete
  | upsert item => exact placeholdersIn_upsert h
  | truncate =>
    have hs : Shows t.dialect rowChars t.truncate _ (columnSlots [] 1) := shows_truncate
    rw [← Option.some.inj h]
    exact placeholdersIn_textOf hs
  | find key =>
    rw [hif (s := t.rowQuery) h]
    exact placeholdersIn_textOf shows_rowQuery
  | all =>
    have hs : Shows t.dialect rowChars t.select _ (columnSlots [] 1) := shows_select
    rw [← Option.some.inj h]
    exact placeholdersIn_textOf hs

/-- An operation that is sent binds its columns in order. -/
theorem binds_callOf {op : RowOperation Item} (hkeyed : t.Keyed op) {sql : String}
    (h : sql ∈ statementOf t.texts op) :
    (t.callOf values op sql).Binds t.dialect ((t.columnsOf op).map (·.parameterName)) := by
  have hbinds : Command.Binds t.dialect { sql, parameters := t.parametersOf values op }
      ((t.columnsOf op).map (·.parameterName)) :=
    ⟨placeholdersIn_statementOf op h, names_parametersOf hkeyed⟩
  cases op <;> exact hbinds

end Table

/-! ## Statements on many rows -/

/-- The positions of a number of values, each under its positional name. -/
def numberedSlots (d : Dialect) (count start : Nat) : List (String × Nat) :=
  (List.range count).map fun k => (d.positionalName (start + k), start + k)

/-- The values of rows as a statement. -/
def valueStatement (d : Dialect) (rows width start : Nat) : Statement :=
  joined ", " ((List.range rows).map fun i => .word "(" ::
    joined ", " ((List.range width).map fun k =>
      [.parameter (d.positionalName (start + i * width + k)) (start + i * width + k)]) ++ [.word ")"])

theorem isPlainName_positionalName (d : Dialect) (n : Nat) :
    isPlainName (d.positionalName n) = true := by
  cases d with
  | sqlServer => exact isPlainName_append (by decide) (isPlainName_numeral n)
  | postgres => exact isPlainName_numeral n

theorem namedPlaceholder_positionalName (d : Dialect) (n : Nat) :
    d.namedPlaceholder (d.positionalName n) n = d.placeholder n := by
  cases d with
  | sqlServer =>
    have hmark : "@p" = "@" ++ "p" := by decide
    rw [Dialect.namedPlaceholder, Dialect.positionalName, Dialect.placeholder, hmark,
      String.append_assoc]
  | postgres => rfl

theorem chars_valueStatement (d : Dialect) (rows width start : Nat) :
    (valueStatement d rows width start).chars d = (valueGroups d rows width start).toList := by
  rw [valueStatement, toList_valueGroups, chars_joined, List.map_map, List.map_map]
  congr 1
  refine List.map_congr_left fun i _ => ?_
  show chars d (.word "(" :: joined ", " _ ++ [.word ")"]) = groupText (numbered d width _)
  have hparameters : (List.range width).map (chars d ∘ fun k =>
      [.parameter (d.positionalName (start + i * width + k)) (start + i * width + k)]) =
        numbered d width (start + i * width) := by
    refine List.map_congr_left fun k _ => ?_
    rw [Function.comp_apply, chars_parameter, chars_nil, List.append_nil,
      namedPlaceholder_positionalName]
  have hopen : "(".toList = ['('] := by decide
  have hclose : ")".toList = [')'] := by decide
  rw [List.cons_append, chars_word, chars_append, chars_joined, List.map_map, hparameters, chars_word,
    chars_nil, hopen, hclose, List.append_nil]
  rfl

/-- Rows of one width are numbered through. -/
theorem flatMap_numberedSlots (d : Dialect) (rows width start : Nat) :
    (List.range rows).flatMap (fun i => numberedSlots d width (start + i * width)) =
      numberedSlots d (rows * width) start := by
  induction rows with
  | zero => simp [numberedSlots]
  | succ rows ih =>
    rw [List.range_succ, List.flatMap_append, ih, List.flatMap_singleton, Nat.succ_mul]
    simp only [numberedSlots, List.range_add, List.map_append, List.map_map]
    congr 1
    refine List.map_congr_left fun k _ => ?_
    rw [Function.comp_apply, Nat.add_assoc]

theorem shows_valueStatement (d : Dialect) (rows width start : Nat) :
    Shows d rowChars (valueStatement d rows width start) []
      (numberedSlots d (rows * width) start) := by
  have hgroup (i : Nat) : Shows d rowChars (.word "(" :: joined ", " ((List.range width).map fun k =>
      [.parameter (d.positionalName (start + i * width + k)) (start + i * width + k)]) ++ [.word ")"])
      [] (numberedSlots d width (start + i * width)) := by
    have h : Shows d rowChars (joined ", " ((List.range width).map fun k =>
        [.parameter (d.positionalName (start + i * width + k)) (start + i * width + k)])) _ _ :=
      shows_joined (by decide) fun k _ => shows_parameter (isPlainName_positionalName d _) _
    rw [List.flatMap_eq_nil_iff.2 fun _ _ => rfl, ← List.map_eq_flatMap] at h
    exact (h.phrase (by decide)).ended (by decide)
  have h : Shows d rowChars (valueStatement d rows width start) _ _ :=
    shows_joined (by decide) fun i _ => hgroup i
  rwa [List.flatMap_eq_nil_iff.2 fun _ _ => rfl, flatMap_numberedSlots] at h

theorem placeholders_numberedSlots (d : Dialect) (count start : Nat) :
    (numberedSlots d count start).map (fun p => d.namedPlaceholder p.1 p.2) =
      (List.range count).map fun k => d.placeholder (start + k) := by
  rw [numberedSlots, List.map_map]
  exact List.map_congr_left fun k _ => namedPlaceholder_positionalName d (start + k)

/-- The values of rows behind a statement without parameters. -/
theorem placeholdersIn_append {s : Statement} {names : List String} (h : Shows d rowChars s names [])
    (rows width : Nat) :
    placeholdersIn d (s.text d ++ valueGroups d rows width 1) =
      placeholdersOf d (positionalNames d (rows * width)) := by
  have hvalues := shows_valueStatement d rows width 1
  -- Values are none at all or begin with a parenthesis, which belongs to no name.
  have hapart : isApart ((valueStatement d rows width 1).chars d) = true := by
    rw [valueStatement, chars_joined]
    cases rows with
    | zero => rfl
    | succ rows =>
      rw [List.range_succ_eq_map, List.map_cons, List.map_cons, Text.intercalate_cons_eq,
        List.cons_append, chars_word]
      rfl
  have hall : Shows d rowChars (s ++ valueStatement d rows width 1) names
      (numberedSlots d (rows * width) 1) := by
    refine ⟨readable_append h.readable hvalues.readable hapart, ?_, ?_⟩
    · rw [names_append, h.names, hvalues.names, List.append_nil]
    · rw [parameters_append, h.parameters, hvalues.parameters, List.nil_append]
  have htext : s.text d ++ valueGroups d rows width 1 = (s ++ valueStatement d rows width 1).text d := by
    rw [← String.toList_inj, String.toList_append, toList_text, toList_text, chars_append,
      chars_valueStatement]
  rw [htext, hall.placeholdersIn_text, placeholders_numberedSlots, placeholdersOf_positionalNames]
  exact List.map_congr_left fun k _ => by rw [Nat.add_comm]

/-- The values of many rows are numbered through, whatever number they begin with. -/
theorem placeholdersIn_valuesFrom (d : Dialect) (rows width start : Nat) :
    placeholdersIn d (valueGroups d rows width start) =
      (List.range (rows * width)).map fun k => d.placeholder (start + k) := by
  have htext : valueGroups d rows width start = (valueStatement d rows width start).text d := by
    rw [← String.toList_inj, toList_text, chars_valueStatement]
  rw [htext, (shows_valueStatement d rows width start).placeholdersIn_text, placeholders_numberedSlots]

/-- The values of many rows are numbered through. -/
theorem placeholdersIn_valueGroups (d : Dialect) (rows width : Nat) :
    placeholdersIn d (valueGroups d rows width 1) =
      (List.range (rows * width)).map fun k => d.placeholder (k + 1) := by
  rw [placeholdersIn_valuesFrom]
  exact List.map_congr_left fun k _ => by rw [Nat.add_comm]

theorem names_positional (d : Dialect) (parameters : List Parameter) :
    (positional d parameters 1).map (·.name) = positionalNames d parameters.length := by
  rw [positionalNames, List.range_eq_range', ← List.zipIdx_map_snd 0 parameters, positional,
    List.mapIdx_eq_zipIdx_map, List.map_map, List.map_map]
  refine List.map_congr_left fun p _ => ?_
  rw [Function.comp_apply, Function.comp_apply, Nat.add_comm]
  rfl

/-- Lists of one length, one after the other. -/
theorem length_flatMap_of_length {α β : Type} {f : α → List β} {n : Nat} {xs : List α}
    (h : ∀ x ∈ xs, (f x).length = n) : (xs.flatMap f).length = xs.length * n := by
  induction xs with
  | nil => simp
  | cons x xs ih =>
    rw [List.flatMap_cons, List.length_append, ih fun y hy => h y (List.mem_cons_of_mem _ hy),
      h x List.mem_cons_self, List.length_cons, Nat.succ_mul, Nat.add_comm]

namespace Table

variable {t : Table} {values : Item → List Value} {ofRow : Row → Except Fault Item}

/-- An insert of many items has a parameter for each value of each row. -/
theorem binds_insertCommand (items : List Item) (timeout : Option Nat) :
    ((t.entity values ofRow).insertCommand items timeout).Binds t.dialect
      (positionalNames t.dialect (items.length * t.insertColumns.length)) := by
  have hsql : ((t.entity values ofRow).insertCommand items timeout).sql =
      t.insertHead.text t.dialect ++
        valueGroups t.dialect items.length t.insertColumns.length 1 := rfl
  have hlength : (items.flatMap (t.entity values ofRow).insertParameters).length =
      items.length * t.insertColumns.length := length_flatMap_of_length fun item _ => List.length_map _
  refine ⟨?_, ?_⟩
  · rw [hsql, placeholdersIn_append shows_insertHead]
  · rw [← hlength]
    exact names_positional _ _

/-- A deletion of many items has a parameter for each of them. -/
theorem binds_deleteCommand {head : String} (h : head ∈ t.texts.deleteBatch) (items : List Item) :
    ((t.entity values ofRow).deleteCommand head items).Binds t.dialect
      (positionalNames t.dialect (1 * items.length)) := by
  obtain ⟨s, hs, rfl⟩ := Option.map_eq_some_iff.1 h
  rw [deleteBatch] at hs
  split at hs
  · rename_i key hkey
    have hlength : (items.flatMap (t.entity values ofRow).keyParameters).length = items.length * 1 := by
      refine length_flatMap_of_length fun item _ => ?_
      show (t.bound t.keyColumns (values item)).length = 1
      rw [bound, List.length_map, hkey, List.length_singleton]
    rw [Nat.mul_one] at hlength
    have hsql : ((t.entity values ofRow).deleteCommand (t.textOf s) items).sql = s.text t.dialect ++
        valueGroups t.dialect 1 (items.flatMap (t.entity values ofRow).keyParameters).length 1 := rfl
    have hhead : s = t.deleteHead key := (Option.some.inj hs).symm
    refine ⟨?_, ?_⟩
    · rw [hsql, hlength, hhead, placeholdersIn_append (shows_deleteHead key)]
    · rw [Nat.one_mul, ← hlength]
      exact names_positional _ _
  · exact absurd hs (by simp)

end Table

/-! ## Everything that is sent -/

/-- A batch of inserts that is applied at once sends one statement. -/
theorem sends_fastPath (conn : Connection σ) (e : Entity Item) {b : Batch Item} {options : SyncOptions}
    (h : b.plan e options = .fastPath) :
    Sends (b.apply e conn.recorded options)
      [.execute (e.insertCommand (b.map (·.item)) options.timeout)] := by
  rw [Batch.apply, h]
  refine sends_require_bind fun _ => sends_require_bind fun _ => ?_
  exact sends_require_bind fun _ => sends_map (sends_executeIn conn e.dialect _) _

namespace Table

/-- Every statement that is sent has the placeholders of its parameters. An operation on one row binds
its columns, each under the name of its column's parameter; a statement on many rows binds all their
values by position. By position the placeholders are the numbers from one on, by name the names. -/
theorem calls_bind (t : Table) (values : Item → List Value) (ofRow : Row → Except Fault Item)
    (conn : Connection σ) :
    (∀ op : RowOperation Item, t.Keyed op →
      Sends (t.perform values ofRow conn.recorded op)
        ((statementOf t.texts op).toList.map (t.callOf values op)) ∧
      ∀ sql ∈ statementOf t.texts op, (t.callOf values op sql).Binds t.dialect
        ((t.columnsOf op).map (·.parameterName))) ∧
    (∀ names, placeholdersOf t.dialect names = match t.dialect with
      | .sqlServer => names.map ("@" ++ ·)
      | .postgres => (List.range names.length).map fun k => "$" ++ Text.numeral (k + 1)) ∧
    (∀ rows width, placeholdersIn t.dialect (valueGroups t.dialect rows width 1) =
      (List.range (rows * width)).map fun k => t.dialect.placeholder (k + 1)) ∧
    (∀ items : List Item,
      Sends ((t.entity values ofRow).insertMany conn.recorded items)
        ((chunks (t.entity values ofRow).insertBatchSize items).map fun chunk =>
          .execute ((t.entity values ofRow).insertCommand chunk none)) ∧
      Sends ((t.entity values ofRow).deleteMany conn.recorded items)
        (t.texts.deleteBatch.toList.flatMap fun head =>
          (chunks (t.entity values ofRow).deleteBatchSize items).map fun chunk =>
            .execute ((t.entity values ofRow).deleteCommand head chunk))) ∧
    (∀ (b : Batch Item) (options : SyncOptions),
      b.plan (t.entity values ofRow) options = .fastPath →
      Sends (b.apply (t.entity values ofRow) conn.recorded options)
        [.execute ((t.entity values ofRow).insertCommand (b.map (·.item)) options.timeout)]) ∧
    ∀ rows : List Item,
      (∀ timeout, ((t.entity values ofRow).insertCommand rows timeout).Binds t.dialect
        (positionalNames t.dialect (rows.length * t.insertColumns.length))) ∧
      ∀ head ∈ t.texts.deleteBatch,
        ((t.entity values ofRow).deleteCommand head rows).Binds t.dialect
          (positionalNames t.dialect (1 * rows.length)) := by
  refine ⟨fun op hkeyed => ⟨sends_perform conn t values ofRow op, fun sql h => binds_callOf hkeyed h⟩,
    fun names => ?_, placeholdersIn_valueGroups t.dialect, fun items =>
      ⟨sends_insertMany conn _ items, sends_deleteMany conn _ items⟩,
    fun b options h => sends_fastPath conn _ h, fun rows =>
      ⟨binds_insertCommand rows, fun head h => binds_deleteCommand h rows⟩⟩
  cases t.dialect with
  | sqlServer => exact placeholdersOf_sqlServer names
  | postgres => exact placeholdersOf_postgres names

/-- The goods of one identifier are looked up, and two deliveries are inserted at once. -/
theorem calls_bind_stock :
    (stock .postgres).Keyed (.find [.int64 2] : RowOperation (List Value)) ∧
    deliveries.plan (stock .postgres).plainEntity {} = .fastPath ∧
    (∃ sql ∈ (stock .postgres).texts.find, placeholdersIn .postgres sql = ["$1"]) ∧
    ((stock .postgres).plainEntity.insertCommand (deliveries.map (·.item)) none).Binds .postgres
      ["1", "2", "3", "4"] ∧
    Sends (deliveries.apply (stock .postgres).plainEntity MemoryConnection.connection.recorded {})
      [.execute ((stock .postgres).plainEntity.insertCommand (deliveries.map (·.item)) none)] := by
  have hkeyed : (stock .postgres).Keyed (.find [.int64 2] : RowOperation (List Value)) := rfl
  have hplan : deliveries.plan (stock .postgres).plainEntity {} = .fastPath := by decide
  obtain ⟨hrow, -, -, -, hfast, hmany⟩ := calls_bind (stock .postgres) id
    (stock .postgres).plainEntity.ofRow MemoryConnection.connection
  have hfind := ((hrow (.find [.int64 2]) hkeyed).2 _ rfl).placeholders
  refine ⟨hkeyed, hplan, ⟨_, rfl, hfind.trans (by decide +kernel)⟩, ?_, hfast deliveries {} hplan⟩
  have hnames : positionalNames .postgres (2 * 2) = ["1", "2", "3", "4"] := by
    decide +kernel
  rw [← hnames]
  exact (hmany _).1 none

end Table

end Tablewright
