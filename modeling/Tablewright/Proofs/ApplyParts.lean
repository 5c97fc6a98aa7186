import Tablewright.Proofs.StagedChanges
import Tablewright.Proofs.StagedForms

/-!
# The parts of an apply script

The statements of an apply script one by one, in either dialect, and what each of them does to a store
whose staging table holds the changes of a batch. Each changes the rows of the table alone, so that
the next one finds the same staged rows.

## Key results

- `run_applyInsert`: the insert appends the new records
- `run_joinedUpdate`, `run_fromUpdate`: the update overwrites the rows with the key of a record
- `run_joinedDelete`, `run_usingDelete`: the deletion removes them
-/

namespace Tablewright

open Sql

/-- A store serves a table and its staging table holds the changes of a batch. -/
structure MemoryStore.Stages (s : MemoryStore) (t : Table) (changes : List (ItemChange (List Value)))
    : Prop extends s.Serves t where
  staged : s.staging.lookup t.stagingText = some ⟨t.stagingColumns, changes.map stagedRow⟩

/-- The row in which a script reports the counts of a batch. -/
def SyncCounts.row (c : SyncCounts) : Row :=
  MemoryStore.countRow [("inserted", c.inserted), ("updated", c.updated), ("deleted", c.deleted)]

namespace Table

variable (t : Table)

/-- The settings of an update, each of them under the alias of the table. -/
def aliasedSettings : Statement :=
  joined ", " (t.updateColumns.map fun c => [.word "t.", .name c.name, .word " = s.", .name c.name])

/-- The settings of an update without the alias. -/
def plainSettings : Statement :=
  joined ", " (t.updateColumns.map fun c => [.name c.name, .word " = s.", .name c.name])

/-- The join of the table to the staged rows of one kind, in SQL Server. -/
def joinStaging (kind : ChangeKind) : Statement :=
  .word " FROM " :: t.target ++ .word " AS t INNER JOIN " :: .name t.stagingName ::
    .word " AS s ON " :: keyMatch "t" "s" t.keyColumns ++ .word " WHERE " :: changeFilter kind

/-- The update of SQL Server. -/
def joinedUpdate : Statement :=
  .word "UPDATE t SET " :: t.aliasedSettings ++ t.joinStaging .update

/-- The deletion of SQL Server. -/
def joinedDelete : Statement :=
  .word "DELETE t" :: t.joinStaging .delete

/-- The staged rows of one kind that match a row of the table, in PostgreSQL. -/
def matchStaging (kind : ChangeKind) : Statement :=
  .name t.stagingName :: .word " AS s WHERE " :: keyMatch "t" "s" t.keyColumns ++ .word " AND " ::
    changeFilter kind

/-- The update of PostgreSQL. -/
def fromUpdate : Statement :=
  .word "UPDATE " :: t.target ++ .word " AS t SET " :: t.plainSettings ++ .word " FROM " ::
    t.matchStaging .update

/-- The deletion of PostgreSQL. -/
def usingDelete : Statement :=
  .word "DELETE FROM " :: t.target ++ .word " AS t USING " :: t.matchStaging .delete

/-- The removal of the staging table. -/
def dropStaging : Statement :=
  [.word "DROP TABLE ", .name t.stagingName]

/-- The index on the staging table in SQL Server. -/
def clusteredIndex : Statement :=
  .word "CREATE CLUSTERED INDEX " :: .name ("IX_" ++ t.name ++ "_bulk") :: .word " ON " ::
    .name t.stagingName :: .word " (" :: columnList t.keyColumns ++ [.word ")"]

/-- The index on the staging table in PostgreSQL. -/
def plainIndex : Statement :=
  .word "CREATE INDEX ON " :: .name t.stagingName :: .word " (" :: columnList t.keyColumns ++
    [.word ")"]

/-- The statistics on the staging table. -/
def analyzeStaging : Statement :=
  [.word "ANALYZE ", .name t.stagingName]

end Table

namespace MemoryStore

variable {s : MemoryStore} {t : Table} {changes : List (ItemChange (List Value))}

/-- The store with other rows in the table, and another value to assign next. -/
def holding (s : MemoryStore) (rows : List (List Value)) (next : Int) : MemoryStore :=
  { s with table := { s.table with rows := rows, nextIdentity := next } }

@[simp] theorem holding_rows (rows : List (List Value)) (next : Int) :
    (s.holding rows next).table.rows = rows := rfl

@[simp] theorem holding_nextIdentity (rows : List (List Value)) (next : Int) :
    (s.holding rows next).table.nextIdentity = next := rfl

@[simp] theorem holding_holding (rows rows' : List (List Value)) (next next' : Int) :
    (s.holding rows next).holding rows' next' = s.holding rows' next' := rfl

theorem Serves.holding (hs : s.Serves t) (rows : List (List Value)) (next : Int) :
    (s.holding rows next).Serves t :=
  ⟨hs.dialect, hs.table.withRows rows next⟩

theorem Stages.holding (hs : s.Stages t changes) (rows : List (List Value)) (next : Int) :
    (s.holding rows next).Stages t changes :=
  ⟨hs.toServes.holding rows next, hs.staged⟩

/-! ## Texts -/

theorem chars_target (t : Table) : t.target.chars t.dialect = t.qualifiedName.toList := by
  rw [Table.target, Statement.chars_name, Statement.chars_word, Statement.chars_name,
    Statement.chars_nil, List.append_nil, Table.qualifiedName, Dialect.qualified,
    String.toList_append, String.toList_append, List.append_assoc]

theorem chars_stagingName (t : Table) (rest : Statement) :
    Statement.chars t.dialect (.name t.stagingName :: rest) =
      t.stagingText.toList ++ rest.chars t.dialect := rfl

/-- The name of the table begins with a quote. -/
theorem qualifiedName_eq_cons (hp : t.Plain) :
    ∃ rest, t.qualifiedName.toList = t.dialect.openQuote :: rest := by
  have hschema := toList_quote t.dialect (isSimpleName_of_isPlainName hp.schema)
  rw [Table.qualifiedName, Dialect.qualified, String.toList_append, String.toList_append, hschema]
  exact ⟨_, rfl⟩

theorem chars_applyInsert (t : Table) :
    t.applyInsert.chars t.dialect =
      "INSERT INTO ".toList ++ t.qualifiedName.toList ++ [' '] ++ insertSource t := by
  have hopen : " (".toList = [' '] ++ ['('] := by decide
  have hselect : ") SELECT ".toList = ')' :: " SELECT ".toList := by decide
  rw [Table.applyInsert, insertSource]
  simp only [List.cons_append, Statement.chars_word, Statement.chars_append, chars_target,
    chars_stagingName, hopen, hselect, List.append_assoc, List.nil_append]

theorem chars_aliasedSettings (t : Table) :
    t.aliasedSettings.chars t.dialect =
      ", ".toList.intercalate (t.updateColumns.map (keyCondition t.dialect)) := by
  rw [Table.aliasedSettings, Statement.chars_joined, List.map_map]
  congr 1
  refine List.map_congr_left fun c _ => ?_
  rw [Function.comp_apply, Statement.chars_word, Statement.chars_name, Statement.chars_word,
    Statement.chars_name, Statement.chars_nil, List.append_nil]
  rfl

theorem chars_plainSettings (t : Table) :
    t.plainSettings.chars t.dialect =
      ", ".toList.intercalate (t.updateColumns.map (plainSetting t.dialect)) := by
  rw [Table.plainSettings, Statement.chars_joined, List.map_map]
  congr 1
  refine List.map_congr_left fun c _ => ?_
  rw [Function.comp_apply, Statement.chars_name, Statement.chars_word, Statement.chars_name,
    Statement.chars_nil, List.append_nil]
  rfl

/-! ## Where the texts are cut -/

theorem clear_aliasedSettings (hp : t.Plain) :
    Text.Clear " FROM ".toList (t.aliasedSettings.chars t.dialect) := by
  have hsub : ∀ c ∈ t.updateColumns, c ∈ t.columns := fun c hc => (Table.mem_updateColumns.1 hc).1
  rw [chars_aliasedSettings]
  show Text.Clear _ (listed t.dialect ", ".toList "t.".toList (fun c =>
    " = ".toList ++ ("s.".toList ++ (t.dialect.quote c.name).toList)) t.updateColumns)
  refine clear_listed (by decide) (simple_columns hp.named hsub) (by decide) (by decide) fun c hc => ?_
  rw [← List.append_assoc]
  exact clear_word_quote t.dialect (by decide) (simple_columns hp.named hsub c hc) (by decide)

theorem clear_plainSettings (hp : t.Plain) :
    Text.Clear " FROM ".toList (t.plainSettings.chars t.dialect) := by
  have hsub : ∀ c ∈ t.updateColumns, c ∈ t.columns := fun c hc => (Table.mem_updateColumns.1 hc).1
  rw [chars_plainSettings]
  show Text.Clear _ (listed t.dialect ", ".toList [] (fun c =>
    " = ".toList ++ ("s.".toList ++ (t.dialect.quote c.name).toList)) t.updateColumns)
  refine clear_listed (by decide) (simple_columns hp.named hsub) (by decide) (by decide) fun c hc => ?_
  rw [← List.append_assoc]
  exact clear_word_quote t.dialect (by decide) (simple_columns hp.named hsub c hc) (by decide)

theorem clear_keyMatch (hp : t.Plain) :
    Text.Clear " WHERE ".toList ((Table.keyMatch "t" "s" t.keyColumns).chars t.dialect) := by
  have hsub : ∀ c ∈ t.keyColumns, c ∈ t.columns := fun c hc => Table.mem_columns_of_mem_keyColumns hc
  rw [chars_keyMatch]
  refine clear_listed (by decide) (simple_columns hp.named hsub) (by decide) (by decide) fun c hc => ?_
  exact clear_word_quote t.dialect (by decide) (simple_columns hp.named hsub c hc) (by decide)

/-! ## Readings -/

theorem readStaged?_update (hp : t.Plain) :
    readStaged? t.qualifiedName.toList (t.joinedUpdate.chars t.dialect) =
      some (.update t.stagingText.toList (t.aliasedSettings.chars t.dialect)
        (joinConditions ((Table.keyMatch "t" "s" t.keyColumns).chars t.dialect)
          ((Table.changeFilter .update).chars t.dialect))) := by
  have hread := readStaged?_joinedUpdate t.qualifiedName.toList (clear_aliasedSettings hp)
    (clear_stagingText hp (by decide)) (clear_keyMatch hp)
    ((Table.changeFilter .update).chars t.dialect)
  simp only [List.append_assoc] at hread
  rw [← hread, Table.joinedUpdate, Table.joinStaging]
  simp only [List.cons_append, Statement.chars_word, Statement.chars_append, chars_target,
    chars_stagingName, List.append_assoc]

theorem readStaged?_delete (hp : t.Plain) :
    readStaged? t.qualifiedName.toList (t.joinedDelete.chars t.dialect) =
      some (.delete t.stagingText.toList
        (joinConditions ((Table.keyMatch "t" "s" t.keyColumns).chars t.dialect)
          ((Table.changeFilter .delete).chars t.dialect))) := by
  have hread := readStaged?_joinedDelete t.qualifiedName.toList
    (clear_stagingText hp (by decide)) (clear_keyMatch hp)
    ((Table.changeFilter .delete).chars t.dialect)
  have hfrom : "DELETE t FROM ".toList = "DELETE t".toList ++ " FROM ".toList := by decide
  simp only [List.append_assoc, hfrom] at hread
  rw [← hread, Table.joinedDelete, Table.joinStaging]
  simp only [List.cons_append, Statement.chars_word, Statement.chars_append, chars_target,
    chars_stagingName, List.append_assoc]

theorem chars_matchStaging (t : Table) (kind : ChangeKind) :
    (t.matchStaging kind).chars t.dialect =
      t.stagingText.toList ++ " AS s WHERE ".toList ++
        joinConditions ((Table.keyMatch "t" "s" t.keyColumns).chars t.dialect)
          ((Table.changeFilter kind).chars t.dialect) := by
  rw [Table.matchStaging, joinConditions]
  simp only [List.cons_append, Statement.chars_word, Statement.chars_append, chars_stagingName,
    List.append_assoc]

theorem readStaged?_from (hp : t.Plain) :
    readStaged? t.qualifiedName.toList (t.fromUpdate.chars t.dialect) =
      some (.update t.stagingText.toList (t.plainSettings.chars t.dialect)
        (joinConditions ((Table.keyMatch "t" "s" t.keyColumns).chars t.dialect)
          ((Table.changeFilter .update).chars t.dialect))) := by
  obtain ⟨rest, hrest⟩ := qualifiedName_eq_cons hp
  have hquote : 't' ≠ t.dialect.openQuote := by cases t.dialect <;> decide
  -- The form with an alias would have `t` where the quote of the name stands.
  have hread := readStaged?_fromUpdate hrest hquote (clear_plainSettings hp)
    (clear_stagingText hp (by decide))
    (joinConditions ((Table.keyMatch "t" "s" t.keyColumns).chars t.dialect)
      ((Table.changeFilter .update).chars t.dialect))
  rw [← hread, Table.fromUpdate]
  simp only [List.cons_append, Statement.chars_word, Statement.chars_append, chars_target,
    chars_matchStaging, List.append_assoc]

theorem readStaged?_using (hp : t.Plain) :
    readStaged? t.qualifiedName.toList (t.usingDelete.chars t.dialect) =
      some (.delete t.stagingText.toList
        (joinConditions ((Table.keyMatch "t" "s" t.keyColumns).chars t.dialect)
          ((Table.changeFilter .delete).chars t.dialect))) := by
  have hread := readStaged?_usingDelete t.qualifiedName.toList (clear_stagingText hp (by decide))
    (joinConditions ((Table.keyMatch "t" "s" t.keyColumns).chars t.dialect)
      ((Table.changeFilter .delete).chars t.dialect))
  rw [← hread, Table.usingDelete]
  simp only [List.cons_append, Statement.chars_word, Statement.chars_append, chars_target,
    chars_matchStaging, List.append_assoc]

/-! ## Runs -/

theorem run_replace_ok {step : MemoryStore → Except MemoryFault (Nat × MemoryStore)} {count : Nat}
    {s' : MemoryStore} (h : step s = .ok (count, s')) : (replace step).run s = (.ok count, s') := by
  rw [replace, run_bind_ok (run_get s), run_bind_ok (run_ofExcept_ok h s)]
  rfl

/-- A statement is read in the store that it runs on. -/
theorem run_readStaged (hs : s.Serves t) {text : List Char} {statement : StagedStatement}
    (h : readStaged? t.qualifiedName.toList text = some statement) :
    (MonadExcept.ofExcept (readOr text (readStaged? s.table.name.toList text)) :
      MemoryOperation StagedStatement).run s = (.ok statement, s) := by
  rw [hs.table.name, h]
  rfl

/-- The insert appends the new records. -/
theorem run_applyInsert (hp : t.Plain) (hfit : FitsColumns t changes) (hs : s.Stages t changes) :
    (runStaged (t.applyInsert.chars t.dialect)).run s =
      (.ok (recordsOf .insert changes).length,
        s.holding (s.table.rows ++ t.newRecords s.table.nextIdentity (recordsOf .insert changes))
          (t.nextAfter s.table.nextIdentity (recordsOf .insert changes).length)) := by
  have hread : readStaged? t.qualifiedName.toList (t.applyInsert.chars t.dialect) =
      some (.insert (insertSource t)) := by
    rw [chars_applyInsert, readStaged?_insert]
  -- The rows are made of the staged records, and added at once.
  rw [runStaged, run_bind_ok (run_get s), run_bind_ok (run_readStaged hs.toServes hread)]
  show (newStagedRows (insertSource t) >>= _).run s = _
  rw [run_bind_ok (run_newStagedRows hp hfit hs.toServes hs.staged), addRows,
    run_bind_ok (run_modify _ _), run_pure, Table.newRecords, List.length_mapIdx]
  rfl

/-- The setting of the update columns and the join, in either form, overwrite rows by their keys. -/
theorem run_staged_update (hp : t.Plain) (hfit : FitsColumns t changes) (hs : s.Stages t changes)
    {text settings : List Char}
    (hread : readStaged? t.qualifiedName.toList text =
      some (.update t.stagingText.toList settings
        (joinConditions ((Table.keyMatch "t" "s" t.keyColumns).chars t.dialect)
          ((Table.changeFilter .update).chars t.dialect))))
    (hset : (Text.split ", ".toList settings).mapM (s.readAssignment t.stagingText) =
      .ok (settingPlaces t)) :
    (runStaged text).run s =
      (.ok (s.table.rows.countP (t.hasKeyIn (recordsOf .update changes))),
        s.holding (t.withUpdates (recordsOf .update changes) s.table.rows) s.table.nextIdentity) := by
  have hsel := select_keys hp hs.toServes hs.staged .update
  rw [runStaged, run_bind_ok (run_get s), run_bind_ok (run_readStaged hs.toServes hread)]
  show (replace fun s => s.stagedUpdate (String.ofList t.stagingText.toList) settings _).run s = _
  rw [String.ofList_toList]
  exact run_replace_ok (stagedUpdate_records hp hfit hset hsel)

theorem run_joinedUpdate (hp : t.Plain) (hfit : FitsColumns t changes) (hs : s.Stages t changes)
    (hne : t.updateColumns ≠ []) :
    (runStaged (t.joinedUpdate.chars t.dialect)).run s =
      (.ok (s.table.rows.countP (t.hasKeyIn (recordsOf .update changes))),
        s.holding (t.withUpdates (recordsOf .update changes) s.table.rows) s.table.nextIdentity) := by
  refine run_staged_update hp hfit hs (readStaged?_update hp) ?_
  rw [chars_aliasedSettings]
  exact readAssignments hp hne (fun c hc => clear_keyCondition t.dialect (by decide) hc (by decide)
    (by decide)) fun c hc => readAssignment_aliased hp hs.toServes hs.staged hc

theorem run_fromUpdate (hp : t.Plain) (hfit : FitsColumns t changes) (hs : s.Stages t changes)
    (hne : t.updateColumns ≠ []) :
    (runStaged (t.fromUpdate.chars t.dialect)).run s =
      (.ok (s.table.rows.countP (t.hasKeyIn (recordsOf .update changes))),
        s.holding (t.withUpdates (recordsOf .update changes) s.table.rows) s.table.nextIdentity) := by
  refine run_staged_update hp hfit hs (readStaged?_from hp) ?_
  rw [chars_plainSettings]
  exact readAssignments hp hne (fun c hc => clear_plainSetting t.dialect (by decide) hc (by decide))
    fun c hc => readAssignment_plain hp hs.toServes hs.staged hc

/-- A deletion in either form removes rows by their keys. -/
theorem run_staged_delete (hp : t.Plain) (hfit : FitsColumns t changes) (hs : s.Stages t changes)
    {text : List Char}
    (hread : readStaged? t.qualifiedName.toList text =
      some (.delete t.stagingText.toList
        (joinConditions ((Table.keyMatch "t" "s" t.keyColumns).chars t.dialect)
          ((Table.changeFilter .delete).chars t.dialect)))) :
    (runStaged text).run s =
      (.ok (s.table.rows.countP (t.hasKeyIn (recordsOf .delete changes))),
        s.holding (t.withoutDeleted (recordsOf .delete changes) s.table.rows) s.table.nextIdentity) := by
  have hsel := select_keys hp hs.toServes hs.staged .delete
  rw [runStaged, run_bind_ok (run_get s), run_bind_ok (run_readStaged hs.toServes hread)]
  show (replace fun s => s.stagedDelete (String.ofList t.stagingText.toList) _).run s = _
  rw [String.ofList_toList]
  exact run_replace_ok (stagedDelete_records hfit hsel)

theorem run_joinedDelete (hp : t.Plain) (hfit : FitsColumns t changes) (hs : s.Stages t changes) :
    (runStaged (t.joinedDelete.chars t.dialect)).run s =
      (.ok (s.table.rows.countP (t.hasKeyIn (recordsOf .delete changes))),
        s.holding (t.withoutDeleted (recordsOf .delete changes) s.table.rows) s.table.nextIdentity) :=
  run_staged_delete hp hfit hs (readStaged?_delete hp)

theorem run_usingDelete (hp : t.Plain) (hfit : FitsColumns t changes) (hs : s.Stages t changes) :
    (runStaged (t.usingDelete.chars t.dialect)).run s =
      (.ok (s.table.rows.countP (t.hasKeyIn (recordsOf .delete changes))),
        s.holding (t.withoutDeleted (recordsOf .delete changes) s.table.rows) s.table.nextIdentity) :=
  run_staged_delete hp hfit hs (readStaged?_using hp)

/-- The staging table is removed. -/
theorem run_dropStaging (hs : s.Stages t changes) :
    (runStaged (t.dropStaging.chars t.dialect)).run s = (.ok 0, s.closeStaging t.stagingText) := by
  have hread : readStaged? t.qualifiedName.toList (t.dropStaging.chars t.dialect) =
      some (.drop t.stagingText.toList) := by
    rw [Table.dropStaging, Statement.chars_word, chars_stagingName, Statement.chars_nil,
      List.append_nil, readStaged?_drop]
  -- The staging table is there, since its rows are.
  have hopen : s.staging.any (·.1 == t.stagingText) = true := by
    by_contra hno
    have hnone : s.staging.lookup t.stagingText = none := by
      rw [List.lookup_eq_none_iff]
      intro p hm
      rw [bne_iff_ne]
      intro hname
      exact hno (List.any_eq_true.2 ⟨p, hm, beq_iff_eq.2 hname.symm⟩)
    rw [hs.staged] at hnone
    exact Option.some_ne_none _ hnone
  rw [runStaged, run_bind_ok (run_get s), run_bind_ok (run_readStaged hs.toServes hread)]
  simp only [String.ofList_toList, hopen, if_true]
  rfl

/-! ## The index -/

theorem isSimpleName_index (hp : t.Plain) : isSimpleName ("IX_" ++ t.name ++ "_bulk") = true := by
  have hname := isSimpleName_of_isPlainName hp.name
  rw [isSimpleName] at hname
  rw [isSimpleName, String.toList_append, String.toList_append, List.all_append, List.all_append,
    hname]
  decide

/-- The columns of the index are columns of the staging table. -/
theorem run_index (hs : s.Stages t changes) {text : List Char}
    (hread : readStaged? t.qualifiedName.toList text = some (.index t.stagingText.toList
      ((Table.columnList t.keyColumns).chars t.dialect ++ ")".toList))) :
    (runStaged text).run s = (.ok 0, s) := by
  have hnames : namesIn t.dialect ((Table.columnList t.keyColumns).chars t.dialect ++ ")".toList) =
      t.keyColumns.map (·.name) :=
    namesIn_columnList_append t.dialect t.keyColumns (by cases t.dialect <;> decide)
      (by cases t.dialect <;> decide)
  -- The store only looks whether it has the columns of the index.
  have hcolumns : (t.keyColumns.map (·.name)).mapM (s.stagingColumn t.stagingText) =
      .ok (t.keyColumns.map t.placeOf) :=
    mapM_map_ok fun c hc => stagingColumn_name hs.staged (Table.mem_columns_of_mem_keyColumns hc)
  rw [runStaged, run_bind_ok (run_get s), run_bind_ok (run_readStaged hs.toServes hread)]
  simp only [String.ofList_toList, hs.dialect, hnames, hcolumns]
  rfl

theorem run_clusteredIndex (hp : t.Plain) (hs : s.Stages t changes) :
    (runStaged (t.clusteredIndex.chars t.dialect)).run s = (.ok 0, s) := by
  refine run_index hs ?_
  have hread := readStaged?_clusteredIndex t.qualifiedName.toList
    (clear_quote t.dialect (by decide : isSeparator " ON ".toList = true) (isSimpleName_index hp))
    (clear_stagingText hp (by decide)) ((Table.columnList t.keyColumns).chars t.dialect ++ ")".toList)
  rw [← hread, Table.clusteredIndex]
  simp only [List.cons_append, Statement.chars_word, Statement.chars_name, Statement.chars_append,
    Statement.chars_nil, List.append_assoc, List.append_nil]
  rfl

theorem run_plainIndex (hp : t.Plain) (hs : s.Stages t changes) :
    (runStaged (t.plainIndex.chars t.dialect)).run s = (.ok 0, s) := by
  refine run_index hs ?_
  have hread := readStaged?_index t.qualifiedName.toList (clear_stagingText hp (by decide))
    ((Table.columnList t.keyColumns).chars t.dialect ++ ")".toList)
  rw [← hread, Table.plainIndex]
  simp only [List.cons_append, Statement.chars_word, Statement.chars_append, chars_stagingName,
    Statement.chars_nil, List.append_assoc, List.append_nil]

theorem run_analyzeStaging (hs : s.Stages t changes) :
    (runStaged (t.analyzeStaging.chars t.dialect)).run s = (.ok 0, s) := by
  have hread : readStaged? t.qualifiedName.toList (t.analyzeStaging.chars t.dialect) =
      some (.analyze t.stagingText.toList) := by
    rw [Table.analyzeStaging, Statement.chars_word, chars_stagingName, Statement.chars_nil,
      List.append_nil, readStaged?_analyze]
  rw [runStaged, run_bind_ok (run_get s), run_bind_ok (run_readStaged hs.toServes hread)]
  simp only [String.ofList_toList, stagingTable, hs.staged]
  rfl

end MemoryStore

end Tablewright
