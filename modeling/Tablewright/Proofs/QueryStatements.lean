import Tablewright.Proofs.UpsertStatements

/-!
# Queries

The statements that read all rows or those with a key. A column is read under the name of its
property; the store takes a query apart at the name of the table and between its columns, and finds
the columns of the key behind the table.

## Key results

- `readColumn_queryColumn`: a column of a query and its label
- `run_rowQuery`, `run_select`: a query answers the records with a key, or all of them
-/

namespace Tablewright

open Sql

namespace MemoryStatement

variable {d : Dialect} {target : List Char}

theorem read?_query (d : Dialect) (target rest : List Char)
    (h : Text.contains ";\n".toList ("SELECT ".toList ++ rest) = false) :
    read? d target ("SELECT ".toList ++ rest) = readSelect? d target rest := by
  have hbehind := Text.after?_append "SELECT ".toList rest
  obtain ⟨text, htext⟩ : ∃ text, "SELECT ".toList ++ rest = 'S' :: text := ⟨_, rfl⟩
  rw [htext] at h hbehind ⊢
  have hne {a : Char} (ha : a ≠ 'S') (lead : List Char) :
      Text.after? (a :: lead) ('S' :: text) = none :=
    Text.after?_cons_ne ha
  -- Its first letter is not that of any statement that changes rows.
  have htruncate : 'S' :: text ≠ "TRUNCATE TABLE ".toList ++ target :=
    fun heq => absurd (List.cons.inj heq).1 (by decide : 'S' ≠ 'T')
  have hinsert : Text.after? ("INSERT INTO ".toList ++ target ++ [' ']) ('S' :: text) = none :=
    hne (by decide : 'I' ≠ 'S') _
  have hmerge : Text.after? ("MERGE INTO ".toList ++ target ++ [' ']) ('S' :: text) = none :=
    hne (by decide : 'M' ≠ 'S') _
  have hupdate : Text.after? ("UPDATE ".toList ++ target ++ " SET ".toList) ('S' :: text) = none :=
    hne (by decide : 'U' ≠ 'S') _
  have hdelete : Text.after? ("DELETE FROM ".toList ++ target ++ " WHERE ".toList) ('S' :: text) =
      none := hne (by decide : 'D' ≠ 'S') _
  rw [read?_cons (by decide) h, if_neg htruncate, hinsert, hmerge, hupdate, hdelete, hbehind]
  rfl

/-- A query is cut at the first place where the name of the table stands behind its columns. -/
theorem readSelect?_columns {columns : List Char} (hclear : Text.Clear " FROM ".toList columns)
    (tail : List Char) :
    readSelect? d target (columns ++ (" FROM ".toList ++ target) ++ tail) =
      some (.select ((Text.split ", ".toList columns).filterMap (readColumn d))
        (((Text.after? " WHERE ".toList tail).map (namesIn d)).getD [])) := by
  have hcut := Text.cut?_clear (Text.clear_longer hclear target) tail
  rw [readSelect?, hcut]
  rfl

/-- A column of a query is read under its label. -/
theorem readColumn_queryColumn (d : Dialect) (c : Column) :
    readColumn d ((Table.queryColumn c).chars d) = some (c.name, c.label) := by
  have hnames := (Table.shows_queryColumn (d := d) c).namesIn_chars (by cases d <;> decide)
  rw [readColumn, hnames, Table.queryNames, Column.label]
  -- A column without a name of its own for the result has one name, which is both.
  split <;> rfl

end MemoryStatement

namespace Table

variable {t : Table}

theorem find_eq (hp : t.Named) : t.find = some t.rowQuery := by
  rw [find, if_neg (by simp [hp.keyed])]
  rfl

end Table

namespace MemoryStore

variable {s : MemoryStore} {t : Table}

/-! ## The columns of a query -/

/-- A column of a query is clear of a separator that the words in it lack. -/
theorem clear_queryColumn (h : t.RecordTable) {c : Column} (hc : c ∈ t.columns) {sep : List Char}
    (hsep : isSeparator sep = true) (hword : Text.contains sep " AS ".toList = false)
    {w : List Char} (hw : Text.contains sep w = false) :
    Text.Clear sep (w ++ (Table.queryColumn c).chars t.dialect) := by
  have hname : Text.Clear sep (w ++ (t.dialect.quote c.name).toList) :=
    clear_word_quote t.dialect hsep (isSimpleName_of_isPlainName (h.columns c hc)) hw
  have hlabel : Text.Clear sep (" AS ".toList ++ (t.dialect.quote c.property).toList) :=
    clear_word_quote t.dialect hsep (isSimpleName_of_isPlainName (h.properties c hc)) hword
  rw [Table.queryColumn]
  split
  · rwa [Statement.chars_name, Statement.chars_nil, List.append_nil]
  · rw [Statement.chars_name, Statement.chars_word, Statement.chars_name, Statement.chars_nil,
      List.append_nil, ← List.append_assoc]
    exact Text.clear_append hname hlabel

/-- The columns of a query, as they stand in its text. -/
def queryColumns (t : Table) : List Char :=
  ", ".toList.intercalate (t.columns.map fun c => (Table.queryColumn c).chars t.dialect)

theorem chars_select (t : Table) :
    t.select.chars t.dialect =
      "SELECT ".toList ++ (queryColumns t ++ (" FROM ".toList ++ t.qualifiedName.toList)) := by
  rw [Table.select_eq, List.cons_append, Statement.chars_word, Statement.chars_append,
    Statement.chars_word, chars_target, Statement.chars_joined, List.map_map]
  rfl

theorem clear_queryColumns (h : t.RecordTable) : Text.Clear " FROM ".toList (queryColumns t) := by
  refine Text.clear_intercalate (fun text htext => ?_) fun text htext => ?_
  · obtain ⟨c, hc, rfl⟩ := List.mem_map.1 htext
    exact clear_queryColumn h hc (w := []) (by decide) (by decide) (by decide)
  · obtain ⟨c, hc, rfl⟩ := List.mem_map.1 htext
    exact clear_queryColumn h hc (by decide) (by decide) (by decide)

/-- The columns of a query are read with their labels. -/
theorem readColumns_queryColumns (h : t.RecordTable) :
    (Text.split ", ".toList (queryColumns t)).filterMap (MemoryStatement.readColumn t.dialect) =
      t.columns.map fun c => (c.name, c.label) := by
  obtain ⟨c, cs, hcolumns⟩ : ∃ c cs, t.columns = c :: cs := by
    refine List.exists_cons_of_ne_nil fun hnil => h.writable ?_
    rw [Table.insertColumns, hnil]
    rfl
  have hsplit : Text.split ", ".toList (queryColumns t) =
      t.columns.map fun c => (Table.queryColumn c).chars t.dialect := by
    refine Text.split_intercalate (by decide) (by simp [hcolumns]) fun text htext => ?_
    obtain ⟨c, hc, rfl⟩ := List.mem_map.1 htext
    exact clear_queryColumn h hc (w := []) (by decide) (by decide) (by decide)
  have hread : ∀ c ∈ t.columns, (MemoryStatement.readColumn t.dialect ∘
      fun c => (Table.queryColumn c).chars t.dialect) c = (some ∘ fun c => (c.name, c.label)) c :=
    fun c _ => MemoryStatement.readColumn_queryColumn t.dialect c
  rw [hsplit, List.filterMap_map, List.filterMap_congr hread, List.filterMap_eq_map]

/-! ## Running queries -/

theorem lacks_select (h : t.RecordTable) : t.select.lacks ';' = true := by
  have hcolumns : (Sql.joined ", " (t.columns.map Table.queryColumn)).lacks ';' = true := by
    refine lacks_joined (by decide) fun p hp => ?_
    obtain ⟨c, hc, rfl⟩ := List.mem_map.1 hp
    have hname := isSimpleName_of_isPlainName (h.columns c hc)
    have hlabel := isSimpleName_of_isPlainName (h.properties c hc)
    rw [Table.queryColumn]
    split
    · rw [lacks_cons, lacks_nil, lacks_name hname, Bool.and_self]
    · rw [lacks_cons, lacks_cons, lacks_cons, lacks_nil, lacks_name hname, lacks_name hlabel]
      decide
  rw [Table.select_eq, lacks_append, lacks_cons, lacks_cons, hcolumns,
    lacks_target h.toNamed mem_semicolon]
  decide

/-- A query is read by its columns and by what stands behind the table. -/
theorem read?_select_append (h : t.RecordTable) {tail : List Char} (hend : ';' ∉ tail) :
    MemoryStatement.read? t.dialect t.qualifiedName.toList (t.select.chars t.dialect ++ tail) =
      some (.select (t.columns.map fun c => (c.name, c.label))
        (((Text.after? " WHERE ".toList tail).map (namesIn t.dialect)).getD [])) := by
  have hscript : Text.contains ";\n".toList (t.select.chars t.dialect ++ tail) = false := by
    refine Text.contains_of_notMem (x := ';') (by decide) fun hm => ?_
    rcases List.mem_append.1 hm with hm | hm
    · exact notMem_chars (by decide) (lacks_select h) hm
    · exact hend hm
  have htext : t.select.chars t.dialect ++ tail =
      "SELECT ".toList ++ (queryColumns t ++ (" FROM ".toList ++ t.qualifiedName.toList) ++ tail) := by
    rw [chars_select, List.append_assoc]
  rw [htext] at hscript ⊢
  rw [MemoryStatement.read?_query _ _ _ hscript,
    MemoryStatement.readSelect?_columns (clear_queryColumns h), readColumns_queryColumns h]

theorem run_query (hs : s.Serves t) {sql : String} {text : List Char}
    {columns : List (String × String)} {keys : List String} (htrim : Text.trim sql.toList = text)
    (hread : MemoryStatement.read? t.dialect t.qualifiedName.toList text =
      some (.select columns keys)) (key : List Value) :
    (MemoryStore.run sql key).run s = (.ok { rows := s.table.select columns keys key }, s) := by
  rw [hs.run_of_read? htrim hread]
  rfl

/-- The query for all rows answers all records. -/
theorem run_select (h : t.RecordTable) (hs : s.Serves t) :
    (MemoryStore.run (t.textOf t.select) []).run s =
      (.ok { rows := s.table.rows.map t.resultRow }, s) := by
  have htrim : Text.trim (t.textOf t.select).toList = t.select.chars t.dialect := by
    rw [Table.textOf, Statement.toList_text]
    refine Text.trim_of_solid ?_ ?_
    · rw [chars_select]
      exact Text.beginsSolid_append (by decide) _
    · rw [Table.select_eq, Statement.chars_append]
      exact Text.endsSolid_append _ (endsSolid_cons _ (endsSolid_target h.toNamed))
  have hwhere : Text.after? " WHERE ".toList [] = none := rfl
  have hread := read?_select_append h (List.not_mem_nil (a := ';'))
  rw [List.append_nil, hwhere, Option.map_none, Option.getD_none] at hread
  rw [run_query hs htrim hread, MemoryTable.select_all hs.table]

/-- The query for a key answers the records with the key. -/
theorem run_rowQuery (h : t.RecordTable) (hs : s.Serves t) (key : List Value) :
    (MemoryStore.run (t.textOf t.rowQuery) key).run s =
      (.ok { rows := (s.table.rows.filter (t.hasKey key)).map t.resultRow }, s) := by
  have htrim : Text.trim (t.textOf t.rowQuery).toList = t.rowQuery.chars t.dialect := by
    have htext := trim_keyFilter h.toNamed (w := "SELECT ") (by decide)
      (Sql.joined ", " (t.columns.map Table.queryColumn) ++ .word " FROM " :: t.target ++
        [.word " WHERE "]) 1
    simp only [List.cons_append, List.append_assoc, List.nil_append] at htext
    rw [Table.textOf, Statement.toList_text, Table.rowQuery, Table.select_eq]
    simpa only [List.cons_append, List.append_assoc] using htext
  have hfilter : ';' ∉ " WHERE ".toList ++ (t.keyFilter 1).chars t.dialect := by
    intro hm
    rcases List.mem_append.1 hm with hm | hm
    · exact absurd hm (by decide)
    · exact notMem_chars (by decide)
        (Table.lacks_bindings (simple_keyColumns h.toNamed) mem_semicolon (by decide)) hm
  have hread := read?_select_append h hfilter
  rw [Text.after?_append, Option.map_some, Option.getD_some, namesIn_keyFilter] at hread
  have hchars : t.rowQuery.chars t.dialect =
      t.select.chars t.dialect ++ (" WHERE ".toList ++ (t.keyFilter 1).chars t.dialect) := by
    rw [Table.rowQuery, Statement.chars_append, Statement.chars_word]
  rw [← hchars] at hread
  rw [run_query hs htrim hread, MemoryTable.select_keyColumns hs.table key]

end MemoryStore

end Tablewright
