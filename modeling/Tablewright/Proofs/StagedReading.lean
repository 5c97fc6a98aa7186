import Tablewright.Memory.Script
import Tablewright.Proofs.ColumnLists
import Tablewright.Proofs.MemoryRecords
import Tablewright.Proofs.Runs

/-!
# Reading the parts of an apply script

What the store in memory understands of the conditions, the settings and the picked columns of an
apply script: each names a column of the table, a column of the staging table or a kind of change, by
its place. The staged rows that a part selects are the records of one kind.

## Key results

- `select_kind`, `select_keys`: the staged rows of a kind, joined by every key column
- `readAssignment_aliased`, `readAssignment_plain`: both forms of an update's setting
- `readPick_column`: a column that an insert copies
-/

namespace Tablewright

open Sql

/-- A store understands the dialect of a table and holds its rows. -/
structure MemoryStore.Serves (s : MemoryStore) (t : Table) : Prop where
  dialect : s.dialect = t.dialect
  table : s.table.Holds t

/-- A change's row in the staging table: the record, then the kind of the change. -/
def stagedRow (change : ItemChange (List Value)) : List Value :=
  change.item ++ [.int16 (Int16.ofNat change.kind.tag)]

namespace Table

variable (t : Table)

/-- The quoted name of the staging table. -/
def stagingText : String :=
  t.dialect.stagingTable t.name

/-- The places at which a condition on the key joins the table and the staging table. -/
def keyJoins : List (Nat × Nat) :=
  t.keyColumns.map fun c => (t.placeOf c, t.placeOf c)

end Table

namespace MemoryStore

variable {s : MemoryStore} {t : Table} {d : Dialect}

/-! ## Operands -/

theorem isBlank_quotes (d : Dialect) :
    Text.isBlank d.openQuote = false ∧ Text.isBlank d.closeQuote = false := by
  cases d <;> decide

/-- Words and a quoted name have no white space at their ends. -/
theorem trim_word_quote (d : Dialect) {w : List Char} {name : String}
    (hname : isSimpleName name = true) (hw : w.head?.any Text.isBlank = false) :
    Text.trim (w ++ (d.quote name).toList) = w ++ (d.quote name).toList := by
  have hend : w ++ (d.quote name).toList =
      (w ++ d.openQuote :: name.toList) ++ [d.closeQuote] := by
    rw [toList_quote d hname]
    simp
  cases w with
  | nil =>
    exact Text.trim_eq (isBlank_quotes d).1 (isBlank_quotes d).2 (toList_quote d hname) hend
  | cons c w => exact Text.trim_eq (by simpa using hw) (isBlank_quotes d).2 rfl hend

theorem readOperand_target (d : Dialect) {name : String} (hname : isSimpleName name = true) :
    readOperand d ("t.".toList ++ (d.quote name).toList) = .ok (.target name) := by
  have htrim := trim_word_quote d (w := "t.".toList) hname (by decide)
  simp only [readOperand, htrim, Text.after?_append, nameIn_quote]
  rfl

theorem readOperand_staging (d : Dialect) {name : String} (hname : isSimpleName name = true) :
    readOperand d ("s.".toList ++ (d.quote name).toList) = .ok (.staging name) := by
  have htrim := trim_word_quote d (w := "s.".toList) hname (by decide)
  have htarget : Text.after? "t.".toList ("s.".toList ++ (d.quote name).toList) = none :=
    Text.after?_cons_ne (by decide)
  simp only [readOperand, htrim, htarget, Text.after?_append, nameIn_quote]
  rfl

/-- A quoted name begins like no number and like no alias. -/
theorem readOperand_quote (d : Dialect) {name : String} (hname : isSimpleName name = true) :
    readOperand d (d.quote name).toList = .ok (.target name) := by
  have htrim := trim_word_quote d (w := []) hname (by decide)
  have hquote := toList_quote d hname
  have htarget : Text.after? "t.".toList (d.quote name).toList = none := by
    rw [hquote]
    exact Text.after?_cons_ne (by cases d <;> decide)
  have hstaging : Text.after? "s.".toList (d.quote name).toList = none := by
    rw [hquote]
    exact Text.after?_cons_ne (by cases d <;> decide)
  -- What begins with a quote is no number.
  have hnumber : readInt64? (d.quote name).toList = none := by
    rw [hquote]
    cases d <;> rfl
  rw [List.nil_append] at htrim
  simp only [readOperand, htrim, htarget, hstaging, hnumber, nameIn_quote]
  rfl

theorem toList_tag (kind : ChangeKind) :
    (Text.numeral kind.tag).toList = [Text.digitChar kind.tag] := by
  have hlt : kind.tag < 10 := by cases kind <;> decide
  rw [Text.numeral, String.toList_ofList, Text.digits, if_pos hlt]

theorem readOperand_tag (d : Dialect) (kind : ChangeKind) :
    readOperand d (Text.numeral kind.tag).toList = .ok (.number kind.tag) := by
  rw [toList_tag]
  cases kind <;> rfl

/-! ## Places -/

theorem targetColumn_name (hs : s.Serves t) {c : Column} (hc : c ∈ t.columns) :
    s.targetColumn c.name = .ok (t.placeOf c) := by
  rw [targetColumn, MemoryTable.position?_name hs.table hc]

variable {rows : List (List Value)}

theorem stagingColumn_of_mem (h : s.staging.lookup t.stagingText = some ⟨t.stagingColumns, rows⟩)
    {name : String} (hm : name ∈ t.stagingColumns) :
    s.stagingColumn t.stagingText name = .ok (t.stagingColumns.idxOf name) := by
  -- The first column of a name is the one that is found.
  have hplace : t.stagingColumns.findIdx? (· == name) = some (t.stagingColumns.idxOf name) :=
    List.findIdx?_eq_some_iff_findIdx_eq.2 ⟨List.idxOf_lt_length_of_mem hm, rfl⟩
  simp only [stagingColumn, stagingTable, h, bind, Except.bind, hplace, pure, Except.pure]

theorem stagingColumn_name (h : s.staging.lookup t.stagingText = some ⟨t.stagingColumns, rows⟩)
    {c : Column} (hc : c ∈ t.columns) :
    s.stagingColumn t.stagingText c.name = .ok (t.placeOf c) := by
  have hmem := List.mem_map_of_mem (f := (·.name)) hc
  have hplace : t.stagingColumns.idxOf c.name = t.placeOf c := List.idxOf_append_of_mem hmem
  rw [stagingColumn_of_mem h (List.mem_append_left _ hmem), hplace]

/-- The column of the kinds stands behind all others. -/
theorem stagingColumn_op (h : s.staging.lookup t.stagingText = some ⟨t.stagingColumns, rows⟩)
    (hop : opColumn ∉ t.columns.map (·.name)) :
    s.stagingColumn t.stagingText opColumn = .ok t.columns.length := by
  have hmem : opColumn ∈ t.stagingColumns := List.mem_append_right _ (List.mem_singleton_self _)
  have hplace : t.stagingColumns.idxOf opColumn = t.columns.length := by
    rw [Table.stagingColumns, List.idxOf_append_of_notMem hop, List.length_map, List.idxOf_cons_self,
      Nat.add_zero]
  rw [stagingColumn_of_mem h hmem, hplace]

/-! ## Conditions -/

/-- The condition on one column of the key. -/
def keyCondition (d : Dialect) (c : Column) : List Char :=
  "t.".toList ++ ((d.quote c.name).toList ++ (" = ".toList ++ ("s.".toList ++ (d.quote c.name).toList)))

/-- The condition on the kind of a change. -/
def kindCondition (d : Dialect) (kind : ChangeKind) : List Char :=
  "s.".toList ++ ((d.quote opColumn).toList ++ (" = ".toList ++ (Text.numeral kind.tag).toList))

theorem chars_changeFilter (d : Dialect) (kind : ChangeKind) :
    (Table.changeFilter kind).chars d = kindCondition d kind := by
  rw [Table.changeFilter, Statement.chars_word, Statement.chars_name, Statement.chars_word,
    Statement.chars_nil, List.append_nil, String.toList_append]
  rfl

theorem chars_keyMatch_staging (d : Dialect) (keys : List Column) :
    (Table.keyMatch "t" "s" keys).chars d = " AND ".toList.intercalate (keys.map (keyCondition d)) := by
  rw [chars_keyMatch]
  rfl

theorem isSimpleName_op : isSimpleName opColumn = true := by decide

theorem simple_columns (h : t.Named) {columns : List Column} (hsub : ∀ c ∈ columns, c ∈ t.columns) :
    ∀ c ∈ columns, isSimpleName c.name = true :=
  fun c hc => isSimpleName_of_isPlainName (h.columns c (hsub c hc))

/-- The two sides of a condition on a column. -/
theorem cut?_keyCondition (d : Dialect) {c : Column} (hname : isSimpleName c.name = true) :
    Text.cut? " = ".toList (keyCondition d c) =
      some ("t.".toList ++ (d.quote c.name).toList, "s.".toList ++ (d.quote c.name).toList) := by
  have hclear : Text.Clear " = ".toList ("t.".toList ++ (d.quote c.name).toList) :=
    clear_word_quote d (by decide) hname (by decide)
  rw [keyCondition, ← List.append_assoc, ← List.append_assoc]
  exact Text.cut?_clear hclear _

theorem readCondition_key (h : t.Plain) (hs : s.Serves t)
    (hst : s.staging.lookup t.stagingText = some ⟨t.stagingColumns, rows⟩) {c : Column}
    (hc : c ∈ t.columns) :
    s.readCondition t.stagingText (keyCondition t.dialect c) =
      .ok (.join (t.placeOf c) (t.placeOf c)) := by
  have hname := isSimpleName_of_isPlainName (h.columns c hc)
  rw [readCondition, cut?_keyCondition t.dialect hname, hs.dialect]
  simp only [readOr, bind, Except.bind, readOperand_target t.dialect hname,
    readOperand_staging t.dialect hname, targetColumn_name hs hc, stagingColumn_name hst hc]
  rfl

theorem readCondition_kind (h : t.Plain) (hs : s.Serves t)
    (hst : s.staging.lookup t.stagingText = some ⟨t.stagingColumns, rows⟩) (kind : ChangeKind) :
    s.readCondition t.stagingText (kindCondition t.dialect kind) =
      .ok (.holds t.columns.length kind.tag) := by
  have hclear : Text.Clear " = ".toList ("s.".toList ++ (t.dialect.quote opColumn).toList) :=
    clear_word_quote t.dialect (by decide) isSimpleName_op (by decide)
  have hcut := Text.cut?_clear hclear (Text.numeral kind.tag).toList
  rw [readCondition, kindCondition, ← List.append_assoc, ← List.append_assoc, hcut, hs.dialect]
  simp only [readOr, bind, Except.bind, readOperand_staging t.dialect isSimpleName_op,
    readOperand_tag, stagingColumn_op hst h.untagged]
  rfl

/-- A condition on a kind is not cut between conditions. -/
theorem contains_and_kindCondition (d : Dialect) (kind : ChangeKind) :
    Text.contains " AND ".toList (kindCondition d kind) = false := by
  have hclear : Text.Clear " AND ".toList ("s.".toList ++ (d.quote opColumn).toList) :=
    clear_word_quote d (by decide) isSimpleName_op (by decide)
  rw [kindCondition, ← List.append_assoc]
  -- Behind the quoted name only the number of the kind is left.
  refine Text.contains_append hclear ?_
  rw [toList_tag]
  cases kind <;> decide

theorem clear_keyCondition (d : Dialect) {c : Column} {sep : List Char} (hsep : isSeparator sep = true)
    (hname : isSimpleName c.name = true) (ht : Text.contains sep "t.".toList = false)
    (hs : Text.contains sep (" = ".toList ++ "s.".toList) = false) :
    Text.Clear sep (keyCondition d c) := by
  rw [keyCondition, ← List.append_assoc, ← List.append_assoc " = ".toList]
  exact Text.clear_append (clear_word_quote d hsep hname ht) (clear_word_quote d hsep hname hs)

/-- The places of the staged rows of a kind. -/
def isStaged (t : Table) (kind : ChangeKind) (row : List Value) : Bool :=
  (MemoryTable.valueAt row t.columns.length).toInt? == some (kind.tag : Int)

theorem select_kind (h : t.Plain) (hs : s.Serves t)
    (hst : s.staging.lookup t.stagingText = some ⟨t.stagingColumns, rows⟩) (kind : ChangeKind) :
    s.select t.stagingText ((Table.changeFilter kind).chars t.dialect) =
      .ok ⟨[], rows.filter (isStaged t kind)⟩ := by
  rw [select, chars_changeFilter, Text.split_of_contains (contains_and_kindCondition _ kind)]
  have hread := readCondition_kind h hs hst kind
  simp only [List.mapM_cons, List.mapM_nil, hread, stagingTable, hst]
  show Except.ok (Selection.mk _ _) = _
  congr 2
  refine List.filter_congr fun row _ => ?_
  simp [keeps, isStaged]

theorem select_keys (h : t.Plain) (hs : s.Serves t)
    (hst : s.staging.lookup t.stagingText = some ⟨t.stagingColumns, rows⟩) (kind : ChangeKind) :
    s.select t.stagingText
        (joinConditions ((Table.keyMatch "t" "s" t.keyColumns).chars t.dialect)
          ((Table.changeFilter kind).chars t.dialect)) =
      .ok ⟨t.keyJoins, rows.filter (isStaged t kind)⟩ := by
  have hkeys : ∀ c ∈ t.keyColumns, c ∈ t.columns := fun c hc => Table.mem_columns_of_mem_keyColumns hc
  have hparts : t.keyColumns.map (keyCondition t.dialect) ≠ [] := by
    simpa using Table.keyColumns_ne_nil h.named
  have hclear : ∀ p ∈ t.keyColumns.map (keyCondition t.dialect), Text.Clear " AND ".toList p := by
    intro p hp
    obtain ⟨c, hc, rfl⟩ := List.mem_map.1 hp
    exact clear_keyCondition t.dialect (by decide) (simple_columns h.named hkeys c hc) (by decide)
      (by decide)
  -- The key conditions and the one on the kind are told apart at the words between them.
  have hsplit := Text.split_intercalate_concat (by decide) hclear
    (contains_and_kindCondition t.dialect kind)
  have hreads : (t.keyColumns.map (keyCondition t.dialect)).mapM (s.readCondition t.stagingText) =
      .ok (t.keyColumns.map fun c => Condition.join (t.placeOf c) (t.placeOf c)) :=
    mapM_map_ok fun c hc => readCondition_key h hs hst (hkeys c hc)
  have hread := readCondition_kind h hs hst kind
  rw [select, joinConditions, chars_keyMatch_staging, chars_changeFilter,
    ← Text.intercalate_concat hparts, hsplit]
  simp only [List.mapM_append, hreads, List.mapM_cons, List.mapM_nil, hread, stagingTable, hst]
  show Except.ok (Selection.mk _ _) = _
  -- Only the key conditions join; only the one on the kind keeps or drops a staged row.
  congr 2
  · simp [joinsOf, Table.keyJoins, List.filterMap_append, List.filterMap_map]
  · refine List.filter_congr fun row _ => ?_
    simp [keeps, isStaged, List.all_append, List.all_map, Function.comp_def]

/-! ## Settings and picked columns -/

/-- The setting of a column without the alias of the table. -/
def plainSetting (d : Dialect) (c : Column) : List Char :=
  (d.quote c.name).toList ++ (" = ".toList ++ ("s.".toList ++ (d.quote c.name).toList))

/-- A column that an insert copies. -/
def pickedColumn (d : Dialect) (c : Column) : List Char :=
  "s.".toList ++ (d.quote c.name).toList

theorem readAssignment_aliased (h : t.Plain) (hs : s.Serves t)
    (hst : s.staging.lookup t.stagingText = some ⟨t.stagingColumns, rows⟩) {c : Column}
    (hc : c ∈ t.columns) :
    s.readAssignment t.stagingText (keyCondition t.dialect c) = .ok (t.placeOf c, t.placeOf c) := by
  have hname := isSimpleName_of_isPlainName (h.columns c hc)
  rw [readAssignment, cut?_keyCondition t.dialect hname, hs.dialect]
  simp only [readOr, bind, Except.bind, readOperand_target t.dialect hname,
    readOperand_staging t.dialect hname, targetColumn_name hs hc, stagingColumn_name hst hc]
  rfl

theorem readAssignment_plain (h : t.Plain) (hs : s.Serves t)
    (hst : s.staging.lookup t.stagingText = some ⟨t.stagingColumns, rows⟩) {c : Column}
    (hc : c ∈ t.columns) :
    s.readAssignment t.stagingText (plainSetting t.dialect c) = .ok (t.placeOf c, t.placeOf c) := by
  have hname := isSimpleName_of_isPlainName (h.columns c hc)
  have hclear : Text.Clear " = ".toList (t.dialect.quote c.name).toList :=
    clear_quote t.dialect (by decide) hname
  have hcut := Text.cut?_clear hclear ("s.".toList ++ (t.dialect.quote c.name).toList)
  rw [readAssignment, plainSetting, ← List.append_assoc, hcut, hs.dialect]
  simp only [readOr, bind, Except.bind, readOperand_quote t.dialect hname,
    readOperand_staging t.dialect hname, targetColumn_name hs hc, stagingColumn_name hst hc]
  rfl

theorem readPick_column (h : t.Plain) (hs : s.Serves t)
    (hst : s.staging.lookup t.stagingText = some ⟨t.stagingColumns, rows⟩) {c : Column}
    (hc : c ∈ t.columns) :
    s.readPick t.stagingText (pickedColumn t.dialect c) = .ok (t.placeOf c) := by
  have hname := isSimpleName_of_isPlainName (h.columns c hc)
  rw [readPick, pickedColumn, hs.dialect, readOperand_staging t.dialect hname]
  exact stagingColumn_name hst hc

theorem clear_plainSetting (d : Dialect) {c : Column} {sep : List Char} (hsep : isSeparator sep = true)
    (hname : isSimpleName c.name = true)
    (hs : Text.contains sep (" = ".toList ++ "s.".toList) = false) :
    Text.Clear sep (plainSetting d c) := by
  rw [plainSetting, ← List.append_assoc " = ".toList]
  exact Text.clear_append (clear_quote d hsep hname) (clear_word_quote d hsep hname hs)

/-- The list of settings is read setting by setting. -/
theorem readAssignments (h : t.Plain) {setting : Column → List Char} {staging : String}
    (hne : t.updateColumns ≠ [])
    (hclear : ∀ c, isSimpleName c.name = true → Text.Clear ", ".toList (setting c))
    (hread : ∀ c ∈ t.columns, s.readAssignment staging (setting c) = .ok (t.placeOf c, t.placeOf c)) :
    (Text.split ", ".toList (", ".toList.intercalate (t.updateColumns.map setting))).mapM
        (s.readAssignment staging) =
      .ok (t.updateColumns.map fun c => (t.placeOf c, t.placeOf c)) := by
  have hsub : ∀ c ∈ t.updateColumns, c ∈ t.columns := fun c hc => (Table.mem_updateColumns.1 hc).1
  rw [Text.split_intercalate (by decide) (by simpa using hne)]
  · exact mapM_map_ok fun c hc => hread c (hsub c hc)
  · intro p hp
    obtain ⟨c, hc, rfl⟩ := List.mem_map.1 hp
    exact hclear c (simple_columns h.named hsub c hc)

/-- The picked columns are read column by column. -/
theorem readPicks (h : t.Plain) (hs : s.Serves t)
    (hst : s.staging.lookup t.stagingText = some ⟨t.stagingColumns, rows⟩) :
    (Text.split ", ".toList ((Table.columnListOf "s" t.insertColumns).chars t.dialect)).mapM
        (s.readPick t.stagingText) = .ok (t.insertColumns.map t.placeOf) := by
  have hsub : ∀ c ∈ t.insertColumns, c ∈ t.columns := fun c hc => (Table.mem_insertColumns.1 hc).1
  have hsplit : Text.split ", ".toList
      (listed t.dialect ", ".toList "s.".toList (fun _ => []) t.insertColumns) =
        t.insertColumns.map fun c => "s.".toList ++ ((t.dialect.quote c.name).toList ++ []) :=
    split_listed (by decide) h.writable (simple_columns h.named hsub) (by decide) fun _ _ => Text.clear_nil
  rw [chars_columnListOf]
  show (Text.split _ (listed t.dialect ", ".toList "s.".toList (fun _ => []) _)).mapM _ = _
  -- Each piece names one column of the staged rows.
  rw [hsplit]
  refine mapM_map_ok fun c hc => ?_
  rw [List.append_nil]
  exact readPick_column h hs hst (hsub c hc)

end MemoryStore

end Tablewright
