import Tablewright.Proofs.EntityStatements
import Tablewright.Proofs.KeyedRecords
import Tablewright.Proofs.StatementFragments

/-!
# Upserts and truncations

The statement that inserts a row or updates the one with its key, in the forms of both dialects, and
the statement that removes all rows. A merge is read by the columns behind the name of its source, an
insert with a clause for conflicts by the columns in front of its values; both are the same upsert.

## Key results

- `read?_mergeUpsert`, `read?_conflictUpsert`: both forms are read as an upsert of an insert's columns
- `run_upsertRow`, `run_truncate`: what the store makes of the statements
-/

namespace Tablewright

open Sql

namespace MemoryStatement

variable {d : Dialect} {target : List Char}

/-! ## Reading behind the first words -/

theorem read?_truncate (d : Dialect) (target : List Char)
    (h : Text.contains ";\n".toList ("TRUNCATE TABLE ".toList ++ target) = false) :
    read? d target ("TRUNCATE TABLE ".toList ++ target) = some .truncate := by
  refine (read?_cons (c := 'T') (by decide) h).trans ?_
  exact congrArg (· <|> _) (if_pos rfl)

theorem read?_merge (d : Dialect) (target rest : List Char) (h : Text.contains ";\n".toList
      ("MERGE INTO ".toList ++ target ++ [' '] ++ rest) = false) :
    read? d target ("MERGE INTO ".toList ++ target ++ [' '] ++ rest) =
      some (readMerge d ("MERGE INTO ".toList ++ target ++ [' '] ++ rest)) := by
  have hbehind := Text.after?_append ("MERGE INTO ".toList ++ target ++ [' ']) rest
  obtain ⟨text, htext⟩ : ∃ text, "MERGE INTO ".toList ++ target ++ [' '] ++ rest = 'M' :: text :=
    ⟨_, rfl⟩
  rw [htext] at h hbehind ⊢
  -- Its first letter is not that of a truncation or of an insert.
  have htruncate : 'M' :: text ≠ "TRUNCATE TABLE ".toList ++ target :=
    fun heq => absurd (List.cons.inj heq).1 (by decide : 'M' ≠ 'T')
  have hinsert : Text.after? ("INSERT INTO ".toList ++ target ++ [' ']) ('M' :: text) = none :=
    Text.after?_cons_ne (by decide : 'I' ≠ 'M')
  rw [read?_cons (by decide) h, if_neg htruncate, hinsert, hbehind]
  rfl

/-- A merge is read by the list in parentheses behind the name of its source. -/
theorem readMerge_source {front columns : List Char} (d : Dialect)
    (hfront : Text.Clear " AS source ".toList front)
    (hcolumns : Text.Clear " AS source ".toList columns) (hbalanced : Balanced columns)
    (behind : List Char) :
    readMerge d (front ++ " AS source ".toList ++ '(' :: (columns ++ ')' :: behind)) =
      .upsert (namesIn d columns) := by
  have hclear : Text.Clear " AS source ".toList ('(' :: (columns ++ [')'])) :=
    Text.clear_append (s := ['(']) (Text.clear_of_notMem (by decide))
      (Text.clear_append hcolumns (Text.clear_of_notMem (by decide)))
  -- What comes behind the list may be cut again, but the list stays at the beginning.
  obtain ⟨more, pieces, hsplit⟩ := Text.split_clear (by decide) hclear behind
  have hparen := parenthesized_balanced hbalanced more
  simp only [List.cons_append, List.append_assoc, List.nil_append] at hsplit
  rw [readMerge, Text.split_cons (by decide) hfront, hsplit]
  simp only [List.getElem?_cons_succ, List.getElem?_cons_zero, Option.getD_some, hparen]

end MemoryStatement

namespace Table

variable {t : Table}

/-- The statement that inserts a row or updates the one with its values in some columns. -/
def upsertBy (t : Table) (keys : List Column) : Statement :=
  match t.dialect with
  | .sqlServer => t.mergeUpsert keys
  | .postgres => t.conflictUpsert keys

/-- The statement that inserts a row or updates the one with its key. -/
def rowUpsert (t : Table) : Statement :=
  match t.dialect with
  | .sqlServer => t.mergeUpsert t.keyColumns
  | .postgres => t.conflictUpsert t.keyColumns

theorem rowUpsert_eq (t : Table) : t.rowUpsert = t.upsertBy t.keyColumns := rfl

/-- A table has an upsert if the store does not assign all of its key. -/
theorem upsert_eq_upsertBy (t : Table) :
    t.upsert = if t.upsertKeys = [] then none else some (t.upsertBy t.upsertKeys) := by
  rw [upsert, upsertBy]
  cases t.upsertKeys with
  | nil => rfl
  | cons k ks => cases t.dialect <;> rfl

theorem mem_columns_of_mem_upsertKeys {c : Column} (hc : c ∈ t.upsertKeys) : c ∈ t.columns :=
  mem_columns_of_mem_keyColumns (List.mem_of_mem_filter hc)

theorem upsert_eq (h : t.RecordTable) : t.upsert = some t.rowUpsert := by
  have hkeys : t.upsertKeys = t.keyColumns := by
    refine List.filter_eq_self.2 fun c hc => ?_
    rw [(mem_insertColumns.1 (h.mem_insertColumns_of_mem_keyColumns hc)).2]
    rfl
  obtain ⟨k, ks, hk⟩ := List.exists_cons_of_ne_nil (keyColumns_ne_nil h.toNamed)
  rw [upsert, hkeys, rowUpsert, hk]
  cases t.dialect <;> rfl

end Table

namespace MemoryStore

variable {s : MemoryStore} {t : Table} {keys : List Column}

/-! ## Truncations -/

theorem endsSolid_target (hp : t.Named) : Text.endsSolid (t.target.chars t.dialect) = true :=
  endsSolid_cons _ (endsSolid_cons _ (endsSolid_name t.dialect (isSimpleName_of_isPlainName hp.name)))

theorem chars_truncate (t : Table) :
    t.truncate.chars t.dialect = "TRUNCATE TABLE ".toList ++ t.qualifiedName.toList := by
  rw [Table.truncate, Statement.chars_word, chars_target]

/-- A truncation removes all rows, and the store goes on assigning where it stood. -/
theorem run_truncate (hp : t.Named) (hs : s.Serves t) :
    (MemoryStore.run (t.textOf t.truncate) []).run s =
      (.ok {}, s.holding [] s.table.nextIdentity) := by
  have hlacks : t.truncate.lacks ';' = true := by
    rw [Table.truncate, lacks_cons, lacks_target hp mem_semicolon]
    decide
  have hscript : Text.contains ";\n".toList (t.truncate.chars t.dialect) = false :=
    Text.contains_of_notMem (by decide) (notMem_chars (by decide) hlacks)
  have htrim : Text.trim (t.textOf t.truncate).toList = t.truncate.chars t.dialect := by
    rw [Table.textOf, Statement.toList_text]
    exact Text.trim_of_solid (Text.beginsSolid_append (s := "TRUNCATE TABLE ".toList) (by decide) _)
      (Text.endsSolid_append _ (endsSolid_target hp))
  have hread : MemoryStatement.read? t.dialect t.qualifiedName.toList (t.truncate.chars t.dialect) =
      some .truncate := by
    rw [chars_truncate] at hscript ⊢
    exact MemoryStatement.read?_truncate _ _ hscript
  rw [hs.run_of_read? htrim hread]
  rfl

/-! ## The texts of upserts -/

/-- The placeholders of an insert's columns. -/
def insertPlaceholders (t : Table) : List (List Char) :=
  t.insertColumns.zipIdx.map fun (c, i) =>
    (t.dialect.namedPlaceholder c.parameterName (i + 1)).toList

/-- The placeholders of a merge's columns. -/
def mergePlaceholders (t : Table) : List (List Char) :=
  t.insertColumns.map fun c => (t.dialect.namedPlaceholder c.parameterName 0).toList

theorem chars_insert (t : Table) :
    t.insert.chars t.dialect = t.insertHead.chars t.dialect ++ groupText (insertPlaceholders t) := by
  have h := toList_insert t
  rwa [Table.textOf, Statement.toList_text, insertText, List.map_singleton,
    List.intercalate_singleton] at h

/-- The text of a merge in front of the name of its source. -/
def mergeFront (t : Table) : List Char :=
  "MERGE INTO ".toList ++ t.qualifiedName.toList ++
    (" WITH (HOLDLOCK) AS target USING (VALUES ".toList ++
      ", ".toList.intercalate ([mergePlaceholders t].map groupText) ++ [')'])

theorem chars_mergeUpsert (t : Table) (keys : List Column) : ∃ behind,
    (t.mergeUpsert keys).chars t.dialect = mergeFront t ++ " AS source ".toList ++
      '(' :: ((Table.columnList t.insertColumns).chars t.dialect ++ ')' :: behind) := by
  -- The words are cut at the parentheses, as the list of the columns is read with them.
  have hvalues : " WITH (HOLDLOCK) AS target USING (VALUES (".toList =
      " WITH (HOLDLOCK) AS target USING (VALUES ".toList ++ ['('] := by simp
  have hsource : ")) AS source (".toList = [')'] ++ ([')'] ++ (" AS source ".toList ++ ['('])) := by simp
  have hon : ") ON ".toList = [')'] ++ " ON ".toList := by simp
  have hplaceholders : (Sql.joined ", " (t.insertColumns.map fun c =>
      [.parameter c.parameterName 0])).chars t.dialect =
        ", ".toList.intercalate (mergePlaceholders t) := by
    rw [Statement.chars_joined, mergePlaceholders, List.map_map]
    congr 1
    refine List.map_congr_left fun c _ => ?_
    rw [Function.comp_apply, Statement.chars_parameter, Statement.chars_nil, List.append_nil]
  rw [Table.mergeUpsert_eq, Table.mergeSource]
  unfold mergeFront
  rw [List.map_singleton, List.intercalate_singleton, groupText]
  simp only [Statement.chars_append, List.cons_append, Statement.chars_word, chars_target,
    hplaceholders, hvalues, hsource, hon, List.append_assoc, List.nil_append]
  exact ⟨_, rfl⟩

/-! ## Reading upserts -/

/-- The placeholders of columns have no line break in them. -/
theorem lacks_parameters {α : Type} (items : List α) (column : α → Column) (position : α → Nat) :
    (Sql.joined ", " (items.map fun a =>
      [.parameter (column a).parameterName (position a)])).lacks '\n' = true := by
  refine lacks_joined (by decide) fun p hp => ?_
  obtain ⟨a, -, rfl⟩ := List.mem_map.1 hp
  rw [lacks_cons, lacks_nil, Fragment.lacks, isPlainName_parameterName]
  decide

theorem mem_lineBreak : '\n' ∈ lineChars := by decide

/-- The settings of an update's columns, behind the words of either form. -/
theorem lacks_settings (hp : t.Named) {w : String} (hw : (Fragment.word w).lacks '\n' = true)
    (setting : Column → Statement)
    (hsetting : ∀ c, isSimpleName c.name = true → (setting c).lacks '\n' = true) :
    Statement.lacks '\n' (.word w :: Sql.joined ", " (t.updateColumns.map setting)) = true := by
  have hsub : ∀ c ∈ t.updateColumns, c ∈ t.columns := fun c hc => (Table.mem_updateColumns.1 hc).1
  rw [lacks_cons, hw, lacks_list hp (by decide) hsub (by decide) hsetting, Bool.and_self]

theorem lacks_conflictAction (hp : t.Named) : t.conflictAction.lacks '\n' = true := by
  have hsettings := lacks_settings hp (w := "DO UPDATE SET ") (by decide)
    (fun c => [.name c.name, .word " = EXCLUDED.", .name c.name]) fun c hc => by
      simp (disch := decide) only [lacks_cons, lacks_nil, lacks_lineWord mem_lineBreak, lacks_name hc,
        Bool.and_self]
  rw [Table.conflictAction]
  -- Without a column to update, a conflict is left alone.
  cases hu : t.updateColumns with
  | nil => decide
  | cons c cs =>
    rw [hu] at hsettings
    exact hsettings

theorem lacks_matchedClause (hp : t.Named) : t.matchedClause.lacks '\n' = true := by
  have hsettings := lacks_settings hp (w := " WHEN MATCHED THEN UPDATE SET ") (by decide)
    (fun c => [.word "target.", .name c.name, .word " = source.", .name c.name]) fun c hc => by
      simp (disch := decide) only [lacks_cons, lacks_nil, lacks_lineWord mem_lineBreak, lacks_name hc,
        Bool.and_self]
  rw [Table.matchedClause]
  cases hu : t.updateColumns with
  | nil => rfl
  | cons c cs =>
    rw [hu] at hsettings
    exact hsettings

theorem lacks_conflictUpsert (hp : t.Named) (hkeys : ∀ c ∈ keys, c ∈ t.columns) :
    (t.conflictUpsert keys).lacks '\n' = true := by
  have hrare : '\n' ∈ rareChars := by decide
  have hvalues : (Sql.joined ", " (t.insertColumns.zipIdx.map fun p =>
      [.parameter p.1.parameterName (p.2 + 1)])).lacks '\n' = true :=
    lacks_parameters t.insertColumns.zipIdx (·.1) (·.2 + 1)
  rw [Table.conflictUpsert_eq, Table.insert, Table.insertHead]
  simp (disch := decide) only [lacks_append, lacks_cons, lacks_nil, lacks_lineWord mem_lineBreak,
    lacks_target hp hrare, lacks_columnList hp hrare mem_columns_of_mem_insertColumns,
    lacks_columnList hp hrare hkeys, hvalues, lacks_conflictAction hp, Bool.and_self]

theorem lacks_mergeUpsert (hp : t.Named) (hkeys : ∀ c ∈ keys, c ∈ t.columns) :
    (t.mergeUpsert keys).lacks '\n' = true := by
  have hrare : '\n' ∈ rareChars := by decide
  have hvalues : (Sql.joined ", " (t.insertColumns.map fun c =>
      [.parameter c.parameterName 0])).lacks '\n' = true :=
    lacks_parameters t.insertColumns id fun _ => 0
  have hmatch : (Table.keyMatch "target" "source" keys).lacks '\n' = true := by
    refine lacks_list hp hrare hkeys (by decide) fun c hc => ?_
    simp (disch := decide) only [lacks_cons, lacks_nil, lacks_lineWord mem_lineBreak, lacks_name hc,
      Bool.and_self]
  have hsource : (Table.columnListOf "source" t.insertColumns).lacks '\n' = true := by
    refine lacks_list hp hrare mem_columns_of_mem_insertColumns (by decide) fun c hc => ?_
    simp (disch := decide) only [lacks_cons, lacks_nil, lacks_lineWord mem_lineBreak, lacks_name hc,
      Bool.and_self]
  have hend : (Fragment.word ");").lacks '\n' = true := by decide
  rw [Table.mergeUpsert_eq, Table.mergeSource]
  simp (disch := decide) only [lacks_append, lacks_cons, lacks_nil, lacks_lineWord mem_lineBreak,
    lacks_target hp hrare, lacks_columnList hp hrare mem_columns_of_mem_insertColumns, hvalues, hmatch,
    hsource, hend, lacks_matchedClause hp, Bool.and_self]

/-- An insert with a clause for conflicts is read as an upsert. -/
theorem read?_conflictUpsert (hp : t.Named) (hkeys : ∀ c ∈ keys, c ∈ t.columns) :
    MemoryStatement.read? t.dialect t.qualifiedName.toList ((t.conflictUpsert keys).chars t.dialect) =
      some (.upsert (t.insertColumns.map (·.name))) := by
  have hscript : Text.contains ";\n".toList ((t.conflictUpsert keys).chars t.dialect) = false :=
    Text.contains_of_notMem (x := '\n') (by decide)
      (notMem_chars (by decide) (lacks_conflictUpsert hp hkeys))
  have hclause : " ON CONFLICT (".toList = " ON CONFLICT ".toList ++ ['('] := by decide
  rw [Table.conflictUpsert_eq, Statement.chars_append, Statement.chars_append, chars_insert,
    Statement.chars_word, hclause] at hscript ⊢
  simp only [List.append_assoc] at hscript ⊢
  rw [read?_insertHead hp hscript, ← List.append_assoc, ← List.append_assoc,
    Text.contains_middle]
  rfl

theorem clear_mergeFront (hp : t.Named) : Text.Clear " AS source ".toList (mergeFront t) := by
  have hschema : Text.Clear " AS source ".toList
      ("MERGE INTO ".toList ++ (t.dialect.quote t.schema).toList) :=
    clear_word_quote t.dialect (by decide) (isSimpleName_of_isPlainName hp.schema) (by decide)
  have hname : Text.Clear " AS source ".toList (".".toList ++ (t.dialect.quote t.name).toList) :=
    clear_word_quote t.dialect (by decide) (isSimpleName_of_isPlainName hp.name) (by decide)
  have hvalues : Text.Clear " AS source ".toList (" WITH (HOLDLOCK) AS target USING (VALUES ".toList ++
      ", ".toList.intercalate ([mergePlaceholders t].map groupText)) := by
    refine clear_groups (by decide) (by decide) (by decide) fun g hg p hpm => ?_
    rw [List.mem_singleton.1 hg] at hpm
    obtain ⟨c, -, rfl⟩ := List.mem_map.1 hpm
    exact isPlaceholder_named t.dialect (isPlainName_parameterName c) 0
  have htarget : t.qualifiedName.toList =
      (t.dialect.quote t.schema).toList ++ (".".toList ++ (t.dialect.quote t.name).toList) := by
    rw [Table.qualifiedName, Dialect.qualified, String.toList_append, String.toList_append,
      List.append_assoc]
  have hclose : Text.Clear " AS source ".toList [')'] := Text.clear_of_notMem (by decide)
  -- No piece of the front begins these words, whatever comes behind it.
  have hfront := Text.clear_append (Text.clear_append (Text.clear_append hschema hname) hvalues) hclose
  unfold mergeFront
  rw [htarget]
  simpa only [List.append_assoc] using hfront

/-- A merge is read as an upsert. -/
theorem read?_mergeUpsert (hp : t.Named) (hkeys : ∀ c ∈ keys, c ∈ t.columns) :
    MemoryStatement.read? t.dialect t.qualifiedName.toList ((t.mergeUpsert keys).chars t.dialect) =
      some (.upsert (t.insertColumns.map (·.name))) := by
  have hscript : Text.contains ";\n".toList ((t.mergeUpsert keys).chars t.dialect) = false :=
    Text.contains_of_notMem (x := '\n') (by decide)
      (notMem_chars (by decide) (lacks_mergeUpsert hp hkeys))
  have hsub : ∀ c ∈ t.insertColumns, c ∈ t.columns := mem_columns_of_mem_insertColumns
  have hlist : Text.Clear " AS source ".toList
      ((Table.columnList t.insertColumns).chars t.dialect) := by
    rw [chars_columnList]
    exact clear_listed (by decide) (simple_columns hp hsub) (by decide) (by decide)
      fun _ _ => Text.clear_nil
  obtain ⟨behind, hchars⟩ := chars_mergeUpsert t keys
  have hsource := MemoryStatement.readMerge_source t.dialect (clear_mergeFront hp) hlist
    (balanced_columnList hp hsub) behind
  -- The merge begins with the name of the table and a blank.
  obtain ⟨rest, hrest⟩ : ∃ rest, (t.mergeUpsert keys).chars t.dialect =
      "MERGE INTO ".toList ++ t.qualifiedName.toList ++ [' '] ++ rest := by
    rw [hchars]
    unfold mergeFront
    exact ⟨_, by simp only [List.append_assoc]; rfl⟩
  rw [← hchars, hrest] at hsource
  rw [hrest] at hscript ⊢
  rw [MemoryStatement.read?_merge _ _ _ hscript, hsource, namesIn_columnList]

/-- Either form is read as an upsert of an insert's columns. -/
theorem read?_upsertBy (hp : t.Named) (hkeys : ∀ c ∈ keys, c ∈ t.columns) :
    MemoryStatement.read? t.dialect t.qualifiedName.toList ((t.upsertBy keys).chars t.dialect) =
      some (.upsert (t.insertColumns.map (·.name))) := by
  rw [Table.upsertBy]
  split
  · exact read?_mergeUpsert hp hkeys
  · exact read?_conflictUpsert hp hkeys

/-! ## Running upserts -/

theorem endsSolid_conflictAction (hp : t.Named) :
    Text.endsSolid (t.conflictAction.chars t.dialect) = true := by
  have hsub : ∀ c ∈ t.updateColumns, c ∈ t.columns := fun c hc => (Table.mem_updateColumns.1 hc).1
  rw [Table.conflictAction]
  cases hu : t.updateColumns with
  | nil => cases t.dialect <;> decide
  | cons c cs =>
    rw [hu] at hsub
    refine endsSolid_cons _ ?_
    rw [Statement.chars_joined]
    refine Text.endsSolid_intercalate (by simp) fun text htext => ?_
    obtain ⟨p, hpm, rfl⟩ := List.mem_map.1 htext
    obtain ⟨c', hc', rfl⟩ := List.mem_map.1 hpm
    exact endsSolid_cons _ (endsSolid_cons _
      (endsSolid_name t.dialect (simple_columns hp hsub c' hc')))

theorem trim_upsertBy (hp : t.Named) (keys : List Column) :
    Text.trim ((t.upsertBy keys).chars t.dialect) = (t.upsertBy keys).chars t.dialect := by
  rw [Table.upsertBy]
  split
  · refine Text.trim_of_solid ?_ ?_
    · rw [Table.mergeUpsert_eq, Table.mergeSource]
      exact Text.beginsSolid_append (s := "MERGE INTO ".toList) (by decide) _
    · rw [Table.mergeUpsert_eq, Statement.chars_append]
      exact Text.endsSolid_append _ (by cases t.dialect <;> decide)
  · refine Text.trim_of_solid ?_ ?_
    · rw [Table.conflictUpsert_eq, Table.insert, Table.insertHead]
      exact Text.beginsSolid_append (s := "INSERT INTO ".toList) (by decide) _
    · rw [Table.conflictUpsert_eq, Statement.chars_append]
      exact Text.endsSolid_append _ (endsSolid_cons _ (endsSolid_conflictAction hp))

/-- An upsert by any columns does to the table what `MemoryTable.upsert` does by the table's own keys. -/
theorem run_upsertBy (hp : t.Named) (hs : s.Answers t) (hkeys : ∀ c ∈ keys, c ∈ t.columns)
    (values : List Value) :
    (MemoryStore.run (t.textOf (t.upsertBy keys)) values).run s =
      (.ok { affected := (s.table.upsert (t.insertColumns.map (·.name)) values).1 },
        { s with table := (s.table.upsert (t.insertColumns.map (·.name)) values).2 }) := by
  have htrim : Text.trim (t.textOf (t.upsertBy keys)).toList = (t.upsertBy keys).chars t.dialect := by
    rw [Table.textOf, Statement.toList_text, trim_upsertBy hp]
  rw [hs.run_of_read? htrim (read?_upsertBy hp hkeys)]
  exact run_changeTable fun m => m.upsert _ _

/-- An upsert updates the rows with the key of a record, or it inserts a new record. -/
theorem run_upsertRow (h : t.RecordTable) (hs : s.Serves t)
    (hkeys : s.table.keys = t.keyColumns.map (·.name)) (record : List Value) :
    (MemoryStore.run (t.textOf t.rowUpsert) (t.insertColumns.map (t.cell record))).run s =
      if s.table.rows.any (t.sameKey · record) then
        (.ok { affected := s.table.rows.countP (t.sameKey · record) },
          s.holding (t.withUpdates [record] s.table.rows) s.table.nextIdentity)
      else
        (.ok { affected := 1 },
          s.holding (s.table.rows ++ [t.newRecord s.table.nextIdentity record])
            (t.nextAfter s.table.nextIdentity 1)) := by
  have hupsert := MemoryTable.upsert_record h hs.table hkeys record
  rw [Table.rowUpsert_eq, run_upsertBy h.toNamed hs.answers fun c => Table.mem_columns_of_mem_keyColumns,
    hupsert]
  split <;> rfl

end MemoryStore

end Tablewright
