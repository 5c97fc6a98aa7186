import Tablewright.Proofs.ApplyTexts
import Tablewright.Proofs.Placeholders
import Tablewright.Table.Texts

/-!
# Statements on rows

The statements that insert, update and delete rows by their parameters, as they are sent to the store
in memory. An insert of many rows differs from that of one in its placeholders only, and the store
counts the values instead of reading them.

## Key results

- `run_insertText`, `run_insertRows`: an insert appends rows of its columns, new records for a table
  that has these columns, however their values are marked
- `run_updateRow`, `run_deleteRow`: the update and the removal of the rows with a key
-/

namespace Tablewright

open Sql

/-! ## Chunks -/

/-- Pieces of one length are the chunks of the list that they make up. -/
theorem chunks_flatten {α : Type} {n : Nat} (hn : 0 < n) {pieces : List (List α)}
    (h : ∀ p ∈ pieces, p.length = n) : chunks n pieces.flatten = pieces := by
  induction pieces with
  | nil => exact chunks_nil n
  | cons p pieces ih =>
    have hp := h p List.mem_cons_self
    -- A piece is not empty, so that the first chunk is the first piece.
    obtain ⟨a, front, rfl⟩ : ∃ a front, p = a :: front := by
      cases p with
      | nil => exact absurd hp (by simp only [List.length_nil]; omega)
      | cons a front => exact ⟨a, front, rfl⟩
    have hfront : front.length = n - 1 := by
      rw [List.length_cons] at hp
      omega
    rw [List.flatten_cons, List.cons_append, chunks, List.take_left' hfront, List.drop_left' hfront,
      ih fun q hq => h q (List.mem_cons_of_mem _ hq)]

namespace MemoryStatement

variable {d : Dialect} {target rest : List Char}

/-! ## Reading behind the first words -/

/-- A text that begins with the letter of no script and of no definition is read as a statement on the
table itself. -/
theorem read?_cons {c : Char} {text : List Char} (hc : c ∉ ['W', 'C'])
    (h : Text.contains ";\n".toList (c :: text) = false) :
    read? d target (c :: text) =
      ((if c :: text = "TRUNCATE TABLE ".toList ++ target then some .truncate else none) <|>
        (Text.after? ("INSERT INTO ".toList ++ target ++ [' ']) (c :: text)).map (readInsert d) <|>
        (Text.after? ("MERGE INTO ".toList ++ target ++ [' ']) (c :: text)).map
          (fun _ => readMerge d (c :: text)) <|>
        (Text.after? ("UPDATE ".toList ++ target ++ " SET ".toList) (c :: text)).map (readUpdate d) <|>
        (Text.after? ("DELETE FROM ".toList ++ target ++ " WHERE ".toList) (c :: text)).map
          (readDelete d) <|>
        (Text.after? "SELECT ".toList (c :: text)).bind (readSelect? d target)) := by
  have hne {a : Char} (ha : a ∈ ['W', 'C']) (lead : List Char) :
      Text.after? (a :: lead) (c :: text) = none :=
    Text.after?_cons_ne fun hac => hc (hac ▸ ha)
  have hwith : Text.startsWith "WITH ".toList (c :: text) = false := by
    rw [Text.startsWith]
    exact congrArg Option.isSome (hne (by decide : 'W' ∈ _) "ITH ".toList)
  have hcreate : Text.after? "CREATE TABLE ".toList (c :: text) = none :=
    hne (by decide : 'C' ∈ _) "REATE TABLE ".toList
  have htemp : Text.after? "CREATE TEMP TABLE ".toList (c :: text) = none :=
    hne (by decide : 'C' ∈ _) "REATE TEMP TABLE ".toList
  simp only [read?, h, hwith, hcreate, htemp, Bool.or_false, Bool.false_eq_true, if_false,
    Option.map_none]
  rfl

/-- A text that begins like a statement on rows is none of the other statements. -/
theorem read?_rows {c : Char} {text : List Char} (hc : c ∈ ['I', 'U', 'D'])
    (h : Text.contains ";\n".toList (c :: text) = false) :
    read? d target (c :: text) =
      ((Text.after? ("INSERT INTO ".toList ++ target ++ [' ']) (c :: text)).map (readInsert d) <|>
        (Text.after? ("UPDATE ".toList ++ target ++ " SET ".toList) (c :: text)).map (readUpdate d) <|>
        (Text.after? ("DELETE FROM ".toList ++ target ++ " WHERE ".toList) (c :: text)).map
          (readDelete d)) := by
  have hothers {a : Char} (ha : a ∈ ['W', 'C', 'T', 'M', 'S']) : c ≠ a := by
    have hnone : (['I', 'U', 'D'].all fun c => ['W', 'C', 'T', 'M', 'S'].all (c != ·)) = true := by
      decide
    exact bne_iff_ne.1 (List.all_eq_true.1 (List.all_eq_true.1 hnone c hc) a ha)
  have hmerge : Text.after? ("MERGE INTO ".toList ++ target ++ [' ']) (c :: text) = none :=
    Text.after?_cons_ne (hothers (by decide : 'M' ∈ _)).symm
  have hselect : Text.after? "SELECT ".toList (c :: text) = none :=
    Text.after?_cons_ne (hothers (by decide : 'S' ∈ _)).symm
  have htruncate : c :: text ≠ "TRUNCATE TABLE ".toList ++ target :=
    fun heq => hothers (by decide : 'T' ∈ _) (List.cons.inj heq).1
  have hhead : c ∉ ['W', 'C'] := by
    simp only [List.mem_cons, List.not_mem_nil, or_false, not_or]
    exact ⟨hothers (by decide), hothers (by decide)⟩
  rw [read?_cons hhead h]
  simp only [htruncate, hmerge, hselect, if_false, Option.map_none, Option.bind_none]
  simp

theorem read?_insert (d : Dialect) (target rest : List Char) (h : Text.contains ";\n".toList
      ("INSERT INTO ".toList ++ target ++ [' '] ++ rest) = false) :
    read? d target ("INSERT INTO ".toList ++ target ++ [' '] ++ rest) = some (readInsert d rest) := by
  have hbehind := Text.after?_append ("INSERT INTO ".toList ++ target ++ [' ']) rest
  refine (read?_rows (c := 'I') (by decide) h).trans ?_
  exact congrArg (fun found => found.map (readInsert d) <|> _) hbehind

theorem read?_update (d : Dialect) (target rest : List Char) (h : Text.contains ";\n".toList
      ("UPDATE ".toList ++ target ++ " SET ".toList ++ rest) = false) :
    read? d target ("UPDATE ".toList ++ target ++ " SET ".toList ++ rest) =
      some (readUpdate d rest) := by
  have hbehind := Text.after?_append ("UPDATE ".toList ++ target ++ " SET ".toList) rest
  refine (read?_rows (c := 'U') (by decide) h).trans ?_
  exact congrArg (fun found => found.map (readUpdate d) <|> _) hbehind

theorem read?_delete (d : Dialect) (target rest : List Char) (h : Text.contains ";\n".toList
      ("DELETE FROM ".toList ++ target ++ " WHERE ".toList ++ rest) = false) :
    read? d target ("DELETE FROM ".toList ++ target ++ " WHERE ".toList ++ rest) =
      some (readDelete d rest) := by
  have hbehind := Text.after?_append ("DELETE FROM ".toList ++ target ++ " WHERE ".toList) rest
  refine (read?_rows (c := 'D') (by decide) h).trans ?_
  exact congrArg (fun found => found.map (readDelete d)) hbehind

end MemoryStatement

namespace MemoryStore

variable {s : MemoryStore} {t : Table}

theorem run_changeTable (step : MemoryTable → Nat × MemoryTable) :
    (changeTable step).run s =
      (.ok { affected := (step s.table).1 }, { s with table := (step s.table).2 }) := rfl

/-! ## Inserts -/

theorem chars_insertHead (t : Table) :
    t.insertHead.chars t.dialect = "INSERT INTO ".toList ++ t.qualifiedName.toList ++ [' '] ++
      '(' :: ((Table.columnList t.insertColumns).chars t.dialect ++ ')' :: " VALUES ".toList) := by
  have hopen : " (".toList = [' '] ++ ['('] := by decide
  have hvalues : ") VALUES ".toList = ')' :: " VALUES ".toList := by decide
  rw [Table.insertHead]
  simp only [List.cons_append, Statement.chars_word, Statement.chars_append, chars_target,
    Statement.chars_nil, hopen, hvalues, List.append_assoc, List.nil_append, List.append_nil]

/-- The text of an insert: its columns and the placeholders of its rows. -/
def insertText (t : Table) (groups : List (List (List Char))) : List Char :=
  t.insertHead.chars t.dialect ++ ", ".toList.intercalate (groups.map groupText)

/-- An insert is read by its columns and by what it does where a key is taken. -/
theorem read?_insertHead (hp : t.Named) {values : List Char}
    (h : Text.contains ";\n".toList (t.insertHead.chars t.dialect ++ values) = false) :
    MemoryStatement.read? t.dialect t.qualifiedName.toList (t.insertHead.chars t.dialect ++ values) =
      some (if Text.contains " ON CONFLICT ".toList (" VALUES ".toList ++ values) then
        .upsert (t.insertColumns.map (·.name)) else .insert (t.insertColumns.map (·.name))) := by
  have hsub : ∀ c ∈ t.insertColumns, c ∈ t.columns := fun c hc => (Table.mem_insertColumns.1 hc).1
  have hparen := parenthesized_balanced (balanced_columnList hp hsub) (" VALUES ".toList ++ values)
  have htext : t.insertHead.chars t.dialect ++ values = "INSERT INTO ".toList ++
      t.qualifiedName.toList ++ [' '] ++ '(' :: ((Table.columnList t.insertColumns).chars t.dialect ++
        ')' :: (" VALUES ".toList ++ values)) := by
    rw [chars_insertHead, List.append_assoc _ _ values, List.cons_append, List.append_assoc _ _ values,
      List.cons_append]
  rw [htext] at h ⊢
  rw [MemoryStatement.read?_insert _ _ _ h, MemoryStatement.readInsert, hparen]
  simp only [namesIn_columnList]

/-- An insert is read by its columns alone. -/
theorem read?_insertText (hp : t.Named) {groups : List (List (List Char))} (hne : groups ≠ [])
    (h : ∀ g ∈ groups, ∀ p ∈ g, IsPlaceholder p) :
    MemoryStatement.read? t.dialect t.qualifiedName.toList (insertText t groups) =
      some (.insert (t.insertColumns.map (·.name))) := by
  have hsub : ∀ c ∈ t.insertColumns, c ∈ t.columns := fun c hc => (Table.mem_insertColumns.1 hc).1
  -- Nothing in the values is taken for a clause behind them.
  have hconflict : Text.contains " ON CONFLICT ".toList
      (" VALUES ".toList ++ ", ".toList.intercalate (groups.map groupText)) = false := by
    obtain ⟨g, gs, rfl⟩ := List.exists_cons_of_ne_nil hne
    exact Text.contains_of_clear (by decide) (clear_groups (by decide) (by decide) (by decide) h)
  have hscript : Text.contains ";\n".toList (insertText t groups) = false := by
    refine Text.contains_of_notMem (x := ';') (by decide) fun hm => ?_
    rcases List.mem_append.1 hm with hm | hm
    · refine notMem_chars (by decide) ?_ hm
      rw [Table.insertHead, lacks_append, lacks_append, lacks_cons, lacks_cons,
        lacks_target hp mem_semicolon, lacks_columnList hp mem_semicolon hsub]
      decide
    · exact notMem_groups (by decide) (by decide) h hm
  rw [insertText] at hscript ⊢
  rw [read?_insertHead hp hscript, hconflict]
  rfl

/-- The values of rows end with a parenthesis. -/
theorem endsSolid_groups {groups : List (List (List Char))} (hne : groups ≠ []) :
    Text.endsSolid (", ".toList.intercalate (groups.map groupText)) = true := by
  refine Text.endsSolid_intercalate (by simpa using hne) fun text htext => ?_
  obtain ⟨g, -, rfl⟩ := List.mem_map.1 htext
  rw [groupText, ← List.cons_append]
  exact Text.endsSolid_append _ (by decide)

theorem trim_insertText (t : Table) {groups : List (List (List Char))} (hne : groups ≠ []) :
    Text.trim (insertText t groups) = insertText t groups := by
  refine Text.trim_of_solid ?_ (Text.endsSolid_append _ (endsSolid_groups hne))
  rw [insertText, chars_insertHead, List.append_assoc, List.append_assoc, List.append_assoc]
  exact Text.beginsSolid_append (by decide) _

/-- Rows inserted one after the other are new records. -/
theorem insertRows_records (hd : (t.columns.map (·.name)).Nodup) {m : MemoryTable} (h : m.Holds t)
    (records : List (List Value)) :
    m.insertRows (t.insertColumns.map (·.name))
        (records.map fun record => t.insertColumns.map (t.cell record)) =
      { m with
        rows := m.rows ++ t.newRecords m.nextIdentity records
        nextIdentity := t.nextAfter m.nextIdentity records.length } := by
  -- Each row takes the value that the row before it has left to assign.
  induction records generalizing m with
  | nil => simp [MemoryTable.insertRows, Table.newRecords, Table.nextAfter]
  | cons record records ih =>
    have hrest := ih (h.withRows (m.rows ++ [t.newRecord m.nextIdentity record])
      (t.nextAfter m.nextIdentity 1))
    rw [MemoryTable.insertRows] at hrest ⊢
    rw [List.map_cons, List.foldl_cons, MemoryTable.insert_record hd h, hrest]
    simp only [MemoryTable.newRecords_cons, MemoryTable.nextAfter_add, List.append_assoc,
      List.singleton_append, List.length_cons, Nat.add_comm]

/-- An insert appends rows of its columns, however their values are marked. The parameters come as one
list; the store cuts it by the number of the columns. -/
theorem run_insertText (hp : t.Named) (hs : s.Answers t) {sql : String}
    {groups : List (List (List Char))} (hsql : sql.toList = insertText t groups) (hne : groups ≠ [])
    (h : ∀ g ∈ groups, ∀ p ∈ g, IsPlaceholder p) {rows : List (List Value)}
    (hwidth : ∀ row ∈ rows, row.length = t.insertColumns.length) :
    (MemoryStore.run sql rows.flatten).run s =
      (.ok { affected := rows.length },
        { s with table := s.table.insertRows (t.insertColumns.map (·.name)) rows }) := by
  have hread := read?_insertText hp hne h
  have htrim : Text.trim sql.toList = insertText t groups := by rw [hsql, trim_insertText t hne]
  have hcolumns : 0 < t.insertColumns.length := List.length_pos_iff.2 hp.writable
  have hchunks : chunks (t.insertColumns.map (·.name)).length rows.flatten = rows := by
    rw [List.length_map]
    exact chunks_flatten hcolumns hwidth
  rw [hs.run_of_read? htrim hread]
  show (changeTable fun m => ((chunks _ _).length, m.insertRows _ (chunks _ _))).run s = _
  rw [hchunks, run_changeTable]

/-- An insert appends the new records of its values, however these are marked. -/
theorem run_insertRows (hp : t.Named) (hs : s.Serves t) {sql : String}
    {groups : List (List (List Char))} (hsql : sql.toList = insertText t groups) (hne : groups ≠ [])
    (h : ∀ g ∈ groups, ∀ p ∈ g, IsPlaceholder p) (records : List (List Value)) :
    (MemoryStore.run sql (records.flatMap fun record => t.insertColumns.map (t.cell record))).run s =
      (.ok { affected := records.length },
        s.holding (s.table.rows ++ t.newRecords s.table.nextIdentity records)
          (t.nextAfter s.table.nextIdentity records.length)) := by
  have hwidth : ∀ row ∈ records.map (fun record => t.insertColumns.map (t.cell record)),
      row.length = t.insertColumns.length := by
    intro row hrow
    obtain ⟨record, -, rfl⟩ := List.mem_map.1 hrow
    exact List.length_map _
  rw [List.flatMap, run_insertText hp hs.answers hsql hne h hwidth, List.length_map,
    insertRows_records hp.distinct hs.table]
  rfl

end MemoryStore

/-! ## Columns with their parameters -/

namespace Table

variable {t : Table} {d : Dialect} {columns : List Column} {start : Nat}

theorem mem_bindings {p : Statement} (h : p ∈ bindings columns start) :
    ∃ c ∈ columns, ∃ n, p = [.name c.name, .word " = ", .parameter c.parameterName n] := by
  obtain ⟨⟨c, i⟩, hmem, rfl⟩ := List.mem_map.1 h
  have hc := List.mem_map_of_mem (f := Prod.fst) hmem
  rw [List.zipIdx_map_fst] at hc
  exact ⟨c, hc, start + i, rfl⟩

theorem chars_binding (d : Dialect) (c : Column) (n : Nat) :
    Statement.chars d [.name c.name, .word " = ", .parameter c.parameterName n] =
      (d.quote c.name).toList ++ (" = ".toList ++ (d.namedPlaceholder c.parameterName n).toList) := by
  rw [Statement.chars_name, Statement.chars_word, Statement.chars_parameter, Statement.chars_nil,
    List.append_nil]

/-- Columns with their parameters are clear of a separator that the words between them lack. -/
theorem clear_bindings (hsimple : ∀ c ∈ columns, isSimpleName c.name = true) {sep : List Char}
    (hsep : isSeparator sep = true) (hblank : isBlankSeparator sep = true)
    (hequal : Text.contains sep " = ".toList = false) {between : String}
    (hbetween : Text.contains sep between.toList = false) :
    Text.Clear sep ((joined between (bindings columns start)).chars d) := by
  have hvalue (c : Column) (n : Nat) :
      Text.Clear sep (" = ".toList ++ (d.namedPlaceholder c.parameterName n).toList) :=
    clear_word_placeholder hblank (isPlaceholder_named d (isPlainName_parameterName c) n) hequal
  rw [Statement.chars_joined]
  refine Text.clear_intercalate (fun text htext => ?_) fun text htext => ?_
  · obtain ⟨p, hp, rfl⟩ := List.mem_map.1 htext
    obtain ⟨c, hc, n, rfl⟩ := mem_bindings hp
    rw [chars_binding]
    exact Text.clear_append (clear_quote d hsep (hsimple c hc)) (hvalue c n)
  · obtain ⟨p, hp, rfl⟩ := List.mem_map.1 htext
    obtain ⟨c, hc, n, rfl⟩ := mem_bindings hp
    rw [chars_binding, ← List.append_assoc]
    exact Text.clear_append (clear_word_quote d hsep (hsimple c hc) hbetween) (hvalue c n)

/-- The names among columns with their parameters are those of the columns. -/
theorem namesIn_bindings (d : Dialect) (columns : List Column) (start : Nat) {between : String}
    (hopen : d.openQuote ∉ between.toList)
    (hhead : between.toList.head?.any (· != d.closeQuote) = true) :
    namesIn d ((joined between (bindings columns start)).chars d) = columns.map (·.name) := by
  -- Neither the words nor the parameters have a quote in them.
  have hlegible : Statement.Legible d (joined between (bindings columns start)) := by
    refine Statement.legible_joined hopen hhead fun p hp => ?_
    obtain ⟨c, -, n, rfl⟩ := mem_bindings hp
    have hplaceholder := isPlaceholder_named d (isPlainName_parameterName c) n
    refine ⟨?_, ?_, hplaceholder.notMem ?_ ?_, trivial⟩
    · rw [Statement.chars_word]
      show some ' ' ≠ some d.closeQuote
      cases d <;> decide
    · cases d <;> decide
    · cases d <;> decide
    · cases d <;> decide
  have hnames : (bindings columns start).flatMap Statement.names =
      (columns.zipIdx.map Prod.fst).map (·.name) := by
    rw [bindings, List.flatMap_map, List.map_map]
    exact List.map_eq_flatMap.symm
  rw [namesIn_chars hlegible, Statement.names_joined, hnames, List.zipIdx_map_fst]

theorem lacks_bindings (hsimple : ∀ c ∈ columns, isSimpleName c.name = true) {x : Char}
    (hx : x ∈ rareChars) {between : String} (hbetween : (Fragment.word between).lacks x = true) :
    (joined between (bindings columns start)).lacks x = true := by
  have hwords : (rareChars.all fun x => (Fragment.word " = ").lacks x && !(['@', '$'].contains x)) =
      true := by decide
  have hword := List.all_eq_true.1 hwords x hx
  rw [Bool.and_eq_true] at hword
  refine lacks_joined hbetween fun p hp => ?_
  obtain ⟨c, hc, n, rfl⟩ := mem_bindings hp
  rw [lacks_cons, lacks_cons, lacks_cons, lacks_nil, lacks_name (hsimple c hc), hword.1,
    Fragment.lacks, isPlainName_parameterName, hword.2]
  rfl

/-- Columns with their parameters end with a placeholder. -/
theorem endsSolid_bindings (hne : columns ≠ []) {between : String} :
    Text.endsSolid ((joined between (bindings columns start)).chars d) = true := by
  rw [Statement.chars_joined]
  refine Text.endsSolid_intercalate ?_ fun text htext => ?_
  · simpa [bindings] using hne
  · obtain ⟨p, hp, rfl⟩ := List.mem_map.1 htext
    obtain ⟨c, -, n, rfl⟩ := mem_bindings hp
    rw [chars_binding]
    exact Text.endsSolid_append _ (Text.endsSolid_append _
      (isPlaceholder_named d (isPlainName_parameterName c) n).endsSolid)

/-! ## Updates and deletions -/

/-- The update columns of an update, with their parameters. -/
def rowSettings (t : Table) : Statement :=
  joined ", " (bindings t.updateColumns 1)

/-- The update of the row with a key. -/
def rowUpdate (t : Table) : Statement :=
  .word "UPDATE " :: t.target ++ .word " SET " :: t.rowSettings ++
    .word " WHERE " :: t.keyFilter (t.updateColumns.length + 1)

/-- The deletion of the row with a key. -/
def rowDelete (t : Table) : Statement :=
  .word "DELETE FROM " :: t.target ++ .word " WHERE " :: t.keyFilter 1

theorem update_eq (hp : t.Named) (h : t.updateColumns ≠ []) : t.update = some t.rowUpdate := by
  rw [update, if_neg (by simp [h, hp.keyed])]
  rfl

theorem delete_eq (hp : t.Named) : t.delete = some t.rowDelete := by
  rw [delete, if_neg (by simp [hp.keyed])]
  rfl

end Table

namespace MemoryStore

variable {s : MemoryStore} {t : Table}

theorem simple_updateColumns (hp : t.Named) : ∀ c ∈ t.updateColumns, isSimpleName c.name = true :=
  fun c hc => isSimpleName_of_isPlainName (hp.columns c (Table.mem_updateColumns.1 hc).1)

theorem simple_keyColumns (hp : t.Named) : ∀ c ∈ t.keyColumns, isSimpleName c.name = true :=
  fun c hc => isSimpleName_of_isPlainName (hp.columns c (Table.mem_columns_of_mem_keyColumns hc))

theorem namesIn_keyFilter (t : Table) (start : Nat) :
    namesIn t.dialect ((t.keyFilter start).chars t.dialect) = t.keyColumns.map (·.name) := by
  refine Table.namesIn_bindings t.dialect t.keyColumns start ?_ ?_ <;> cases t.dialect <;> decide

/-- An update is read by the columns in front of its condition and those in it. -/
theorem read?_rowUpdate (hp : t.Named) :
    MemoryStatement.read? t.dialect t.qualifiedName.toList (t.rowUpdate.chars t.dialect) =
      some (.update (t.updateColumns.map (·.name)) (t.keyColumns.map (·.name))) := by
  have hsettings : namesIn t.dialect (t.rowSettings.chars t.dialect) =
      t.updateColumns.map (·.name) := by
    refine Table.namesIn_bindings t.dialect t.updateColumns 1 ?_ ?_ <;> cases t.dialect <;> decide
  have hclear : Text.Clear " WHERE ".toList (t.rowSettings.chars t.dialect) :=
    Table.clear_bindings (simple_updateColumns hp) (by decide) (by decide) (by decide) (by decide)
  have hcut := Text.cut?_clear hclear ((t.keyFilter (t.updateColumns.length + 1)).chars t.dialect)
  have hlacks : t.rowUpdate.lacks ';' = true := by
    rw [Table.rowUpdate, lacks_append, lacks_append, lacks_cons, lacks_cons, lacks_cons,
      lacks_target hp mem_semicolon, Table.rowSettings, Table.keyFilter,
      Table.lacks_bindings (simple_updateColumns hp) mem_semicolon (by decide),
      Table.lacks_bindings (simple_keyColumns hp) mem_semicolon (by decide)]
    decide
  have hscript : Text.contains ";\n".toList (t.rowUpdate.chars t.dialect) = false :=
    Text.contains_of_notMem (by decide) (notMem_chars (by decide) hlacks)
  have hchars : t.rowUpdate.chars t.dialect = "UPDATE ".toList ++ t.qualifiedName.toList ++
      " SET ".toList ++ (t.rowSettings.chars t.dialect ++ " WHERE ".toList ++
        (t.keyFilter (t.updateColumns.length + 1)).chars t.dialect) := by
    rw [Table.rowUpdate]
    simp only [List.cons_append, Statement.chars_word, Statement.chars_append, chars_target,
      List.append_assoc]
  rw [hchars] at hscript ⊢
  rw [MemoryStatement.read?_update _ _ _ hscript, MemoryStatement.readUpdate, hcut]
  simp only [Option.getD_some, hsettings, namesIn_keyFilter]

/-- A deletion is read by the columns in its condition. -/
theorem read?_rowDelete (hp : t.Named) :
    MemoryStatement.read? t.dialect t.qualifiedName.toList (t.rowDelete.chars t.dialect) =
      some (.delete (t.keyColumns.map (·.name))) := by
  have hclear : Text.Clear " IN ".toList ((t.keyFilter 1).chars t.dialect) :=
    Table.clear_bindings (simple_keyColumns hp) (by decide) (by decide) (by decide) (by decide)
  have hin := Text.contains_of_clear (by decide) hclear
  have hlacks : t.rowDelete.lacks ';' = true := by
    rw [Table.rowDelete, lacks_append, lacks_cons, lacks_cons, lacks_target hp mem_semicolon,
      Table.keyFilter, Table.lacks_bindings (simple_keyColumns hp) mem_semicolon (by decide)]
    decide
  have hscript : Text.contains ";\n".toList (t.rowDelete.chars t.dialect) = false :=
    Text.contains_of_notMem (by decide) (notMem_chars (by decide) hlacks)
  have hchars : t.rowDelete.chars t.dialect = "DELETE FROM ".toList ++ t.qualifiedName.toList ++
      " WHERE ".toList ++ (t.keyFilter 1).chars t.dialect := by
    rw [Table.rowDelete]
    simp only [List.cons_append, Statement.chars_word, Statement.chars_append, chars_target,
      List.append_assoc]
  rw [hchars] at hscript ⊢
  rw [MemoryStatement.read?_delete _ _ _ hscript, MemoryStatement.readDelete]
  simp only [hin, Bool.false_eq_true, if_false, namesIn_keyFilter]

/-- A statement that begins with a word and ends with the key is sent as it is. -/
theorem trim_keyFilter (hp : t.Named) {w : String} (hw : Text.beginsSolid w.toList = true)
    (statement : Statement) (start : Nat) :
    Text.trim (Statement.chars t.dialect (.word w :: statement ++ t.keyFilter start)) =
      Statement.chars t.dialect (.word w :: statement ++ t.keyFilter start) := by
  refine Text.trim_of_solid ?_ ?_
  · rw [List.cons_append, Statement.chars_word]
    exact Text.beginsSolid_append hw _
  · rw [Statement.chars_append]
    exact Text.endsSolid_append _ (Table.endsSolid_bindings (Table.keyColumns_ne_nil hp))

/-- An update replaces the update columns of the rows with the key of a record. -/
theorem run_updateRow (hp : t.Named) (hs : s.Serves t) (record : List Value) :
    (MemoryStore.run (t.textOf t.rowUpdate)
        ((t.updateColumns ++ t.keyColumns).map (t.cell record))).run s =
      (.ok { affected := s.table.rows.countP (t.sameKey · record) },
        s.holding (t.withUpdates [record] s.table.rows) s.table.nextIdentity) := by
  have hread := read?_rowUpdate hp
  have htrim : Text.trim (t.textOf t.rowUpdate).toList = t.rowUpdate.chars t.dialect := by
    have h := trim_keyFilter hp (w := "UPDATE ") (by decide)
      (t.target ++ .word " SET " :: t.rowSettings ++ [.word " WHERE "]) (t.updateColumns.length + 1)
    simp only [List.cons_append, List.append_assoc, List.nil_append] at h
    rw [Table.textOf, Statement.toList_text, Table.rowUpdate]
    simpa only [List.cons_append, List.append_assoc] using h
  have hchange := MemoryTable.update_records hp.distinct hs.table record
  rw [hs.run_of_read? htrim hread]
  show (changeTable fun m => m.update _ (((t.updateColumns ++ t.keyColumns).map (t.cell record)).drop
    (t.updateColumns.map (·.name)).length) _ (((t.updateColumns ++ t.keyColumns).map
      (t.cell record)).take (t.updateColumns.map (·.name)).length)).run s = _
  rw [List.map_append, List.drop_left' (by simp), List.take_left' (by simp), run_changeTable, hchange]
  rfl

/-- A deletion removes the rows with its values in the columns of the key. -/
theorem run_rowDelete (hp : t.Named) (hs : s.Answers t) (values : List Value) :
    (MemoryStore.run (t.textOf t.rowDelete) values).run s =
      (.ok { affected := (s.table.delete (t.keyColumns.map (·.name)) values).1 },
        { s with table := (s.table.delete (t.keyColumns.map (·.name)) values).2 }) := by
  have hread := read?_rowDelete hp
  have htrim : Text.trim (t.textOf t.rowDelete).toList = t.rowDelete.chars t.dialect := by
    have h := trim_keyFilter hp (w := "DELETE FROM ") (by decide) (t.target ++ [.word " WHERE "]) 1
    simp only [List.cons_append, List.append_assoc, List.nil_append] at h
    rw [Table.textOf, Statement.toList_text, Table.rowDelete]
    simpa only [List.cons_append, List.append_assoc] using h
  rw [hs.run_of_read? htrim hread]
  show (changeTable fun m => m.delete _ _).run s = _
  rw [run_changeTable]

/-- A deletion removes the rows with the key of a record. -/
theorem run_deleteRow (hp : t.Named) (hs : s.Serves t) (record : List Value) :
    (MemoryStore.run (t.textOf t.rowDelete) (t.keyColumns.map (t.cell record))).run s =
      (.ok { affected := s.table.rows.countP (t.sameKey · record) },
        s.holding (t.withoutDeleted [record] s.table.rows) s.table.nextIdentity) := by
  rw [run_rowDelete hp hs.answers, MemoryTable.delete_records hs.table]
  rfl

end MemoryStore

end Tablewright
