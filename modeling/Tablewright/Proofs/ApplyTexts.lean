import Tablewright.Proofs.ApplyParts
import Tablewright.Proofs.ScriptPieces

/-!
# The texts of the apply scripts

Both apply scripts as lists of statements with a semicolon and an end of line between each two, and
the index in front of them. No semicolon and no end of line stands inside one of the statements that
change a table.

## Key results

- `chars_sqlServerApply`, `chars_postgresApply`, `chars_applyIndexed`: a script is its joined pieces
- `isPiece_sqlServerPieces`, `isPiece_indexPieces`: a piece is cut out as it is
-/

namespace Tablewright

open Sql MemoryStore

namespace Table

variable (t : Table)

/-! ## Pieces -/

/-- The statement that keeps the number of rows in a variable. -/
def keepCount (variableName : String) : Statement :=
  [.word ("SET @" ++ variableName ++ " = @@ROWCOUNT")]

/-- The declaration of the variables. -/
def declaration : Statement :=
  [.word "DECLARE @inserted BIGINT = 0, @updated BIGINT = 0, @deleted BIGINT = 0"]

/-- The query for the variables. -/
def variablesQuery : Statement :=
  [.word "SELECT @inserted AS ", .name "inserted", .word ", @updated AS ", .name "updated",
    .word ", @deleted AS ", .name "deleted"]

/-- The update and the statement that keeps its count; none without update columns. -/
def updatePieces : List Statement :=
  if t.updateColumns.isEmpty then [] else [t.joinedUpdate, keepCount "updated"]

/-- The statements of SQL Server's script but the last one. -/
def sqlServerPieces : List Statement :=
  [[.word "SET NOCOUNT ON"], declaration, t.applyInsert, keepCount "inserted"] ++ t.updatePieces ++
    [t.joinedDelete, keepCount "deleted", t.dropStaging]

/-- A part of PostgreSQL's statement with parts. -/
def part (name : String) (inner : Statement) : Statement :=
  .word (name ++ " AS (") :: inner ++ [.word " RETURNING 1)"]

/-- The parts of PostgreSQL's statement. -/
def parts : List Statement :=
  part "ins" t.applyInsert ::
    (if t.updateColumns.isEmpty then [] else [part "upd" t.fromUpdate]) ++ [part "del" t.usingDelete]

/-- The list of counts behind the parts. -/
def partCounts : Statement :=
  [.word "(SELECT COUNT(*) FROM ins) AS ", .name "inserted",
    .word (", " ++ (if t.updateColumns.isEmpty then "0" else "(SELECT COUNT(*) FROM upd)") ++
      "::BIGINT AS "),
    .name "updated", .word ", (SELECT COUNT(*) FROM del) AS ", .name "deleted"]

/-- PostgreSQL's statement with parts. -/
def withParts : Statement :=
  .word "WITH " :: joined ",\n" t.parts ++ .word "\nSELECT " :: t.partCounts

/-- The statements that index the staging table. -/
def indexPieces : List Statement :=
  match t.dialect with
  | .sqlServer => [t.clusteredIndex]
  | .postgres => [t.plainIndex, t.analyzeStaging]

end Table

variable {t : Table} {d : Dialect}

/-! ## The scripts as joined pieces -/

theorem chars_sqlServerApply (t : Table) (d : Dialect) :
    t.sqlServerApply.chars d = ";\n".toList.intercalate
      (t.sqlServerPieces.map (Statement.chars d) ++ [Table.variablesQuery.chars d ++ [';']]) := by
  have hquiet : "SET NOCOUNT ON;\n".toList = "SET NOCOUNT ON".toList ++ ";\n".toList := by decide
  have hdeclare : "DECLARE @inserted BIGINT = 0, @updated BIGINT = 0, @deleted BIGINT = 0;\n".toList =
      "DECLARE @inserted BIGINT = 0, @updated BIGINT = 0, @deleted BIGINT = 0".toList ++
        ";\n".toList := by decide
  have hinserted : ";\nSET @inserted = @@ROWCOUNT;\n".toList =
      ";\n".toList ++ (("SET @" ++ "inserted" ++ " = @@ROWCOUNT").toList ++ ";\n".toList) := by decide
  have hupdated : ";\nSET @updated = @@ROWCOUNT;\n".toList =
      ";\n".toList ++ (("SET @" ++ "updated" ++ " = @@ROWCOUNT").toList ++ ";\n".toList) := by decide
  have hdeleted : ";\nSET @deleted = @@ROWCOUNT;\n".toList =
      ";\n".toList ++ (("SET @" ++ "deleted" ++ " = @@ROWCOUNT").toList ++ ";\n".toList) := by decide
  have hselect : ";\nSELECT @inserted AS ".toList = ";\n".toList ++ "SELECT @inserted AS ".toList := by
    decide
  -- The texts between the pieces end one of them and begin the next; with and without an update.
  rw [Table.sqlServerApply, Table.sqlServerPieces, Table.updatePieces]
  cases hu : t.updateColumns with
  | nil =>
    simp only [List.isEmpty_nil, if_true, List.cons_append, List.nil_append, List.map_cons,
      List.map_nil, List.intercalate_cons_cons, List.intercalate_singleton, Statement.chars_word,
      Statement.chars_name, Statement.chars_append, Statement.chars_nil, Table.declaration,
      Table.joinedDelete, Table.joinStaging, Table.dropStaging, Table.variablesQuery,
      Table.keepCount, hquiet, hdeclare, hinserted, hdeleted, hselect, List.append_assoc,
      List.append_nil]
    rfl
  | cons c cs =>
    simp only [List.isEmpty_cons, Bool.false_eq_true, if_false, List.cons_append, List.nil_append,
      List.map_cons, List.map_nil, List.intercalate_cons_cons, List.intercalate_singleton,
      Statement.chars_word, Statement.chars_name, Statement.chars_append, Statement.chars_nil,
      Table.declaration, Table.joinedUpdate, Table.aliasedSettings, Table.joinedDelete,
      Table.joinStaging, Table.dropStaging, Table.variablesQuery, Table.keepCount, hu, hquiet,
      hdeclare, hinserted, hupdated, hdeleted, hselect, List.append_assoc, List.append_nil]
    rfl

theorem chars_postgresApply (t : Table) (d : Dialect) :
    t.postgresApply.chars d = ";\n".toList.intercalate
      ([t.withParts.chars d] ++ [t.dropStaging.chars d]) := by
  have hselect : "\nSELECT (SELECT COUNT(*) FROM ins) AS ".toList =
      "\nSELECT ".toList ++ "(SELECT COUNT(*) FROM ins) AS ".toList := by decide
  have hdrop : ";\nDROP TABLE ".toList = ";\n".toList ++ "DROP TABLE ".toList := by decide
  have hins : "ins AS (".toList = ("ins" ++ " AS (").toList := by decide
  have hupd : "upd AS (UPDATE ".toList = ("upd" ++ " AS (").toList ++ "UPDATE ".toList := by decide
  have hdel : "del AS (DELETE FROM ".toList =
      ("del" ++ " AS (").toList ++ "DELETE FROM ".toList := by decide
  -- The words in front of a part and behind it are the name of the part and its parentheses.
  rw [Table.postgresApply, Table.withParts, Table.parts, Table.partCounts]
  cases hu : t.updateColumns with
  | nil =>
    simp only [List.isEmpty_nil, if_true, List.cons_append, List.nil_append, List.map_cons,
      List.map_nil, List.intercalate_cons_cons, List.intercalate_singleton, Statement.chars_word,
      Statement.chars_name, Statement.chars_append, Statement.chars_nil, Statement.chars_joined,
      Table.part, Table.usingDelete, Table.matchStaging, Table.dropStaging, hselect, hdrop, hins,
      hdel, List.append_assoc, List.append_nil]
  | cons c cs =>
    simp only [List.isEmpty_cons, Bool.false_eq_true, if_false, List.cons_append, List.nil_append,
      List.map_cons, List.map_nil, List.intercalate_cons_cons, List.intercalate_singleton,
      Statement.chars_word, Statement.chars_name, Statement.chars_append, Statement.chars_nil,
      Statement.chars_joined, Table.part, Table.fromUpdate, Table.plainSettings, Table.usingDelete,
      Table.matchStaging, Table.dropStaging, hu, hselect, hdrop, hins, hupd, hdel,
      List.append_assoc, List.append_nil]

/-- The index stands in front of the other statements. -/
theorem chars_applyIndexed (t : Table) {pieces : List (List Char)} (hne : pieces ≠ [])
    (h : t.apply.chars t.dialect = ";\n".toList.intercalate pieces) :
    t.applyIndexed.chars t.dialect =
      ";\n".toList.intercalate (t.indexPieces.map (Statement.chars t.dialect) ++ pieces) := by
  have hanalyze : ");\nANALYZE ".toList = ")".toList ++ (";\n".toList ++ "ANALYZE ".toList) := by
    decide
  obtain ⟨p, ps, rfl⟩ := List.exists_cons_of_ne_nil hne
  rw [Table.applyIndexed, Statement.chars_append, Statement.chars_word, h, Table.stagingIndex,
    Table.indexPieces]
  cases t.dialect with
  | sqlServer =>
    simp only [List.map_cons, List.map_nil, List.cons_append, List.nil_append,
      List.intercalate_cons_cons, Table.clusteredIndex, Statement.chars_word, Statement.chars_name,
      Statement.chars_append, Statement.chars_nil, List.append_assoc, List.append_nil]
  | postgres =>
    simp only [List.map_cons, List.map_nil, List.cons_append, List.nil_append,
      List.intercalate_cons_cons, Table.plainIndex, Table.analyzeStaging, Statement.chars_word,
      Statement.chars_name, Statement.chars_append, Statement.chars_nil, hanalyze,
      List.append_assoc, List.append_nil]

/-! ## Characters that the pieces lack -/

/-- The characters that stand in no list of columns and in no condition. -/
def rareChars : List Char := [';', '\n', '(', ')']

variable {x : Char}

theorem lacks_word (hx : x ∈ rareChars) {w : String}
    (h : (rareChars.all fun c => (Fragment.word w).lacks c) = true) :
    (Fragment.word w).lacks x = true :=
  List.all_eq_true.1 h x hx

theorem lacks_name {n : String} (h : isSimpleName n = true) : (Fragment.name n).lacks x = true := h

theorem lacks_target (hp : t.Named) (hx : x ∈ rareChars) : t.target.lacks x = true := by
  simp (disch := decide) only [Table.target, lacks_cons, lacks_nil, lacks_word hx,
    lacks_name (isSimpleName_of_isPlainName hp.schema),
    lacks_name (isSimpleName_of_isPlainName hp.name), Bool.and_self]

theorem lacks_stagingName (hp : t.Plain) : (Fragment.name t.stagingName).lacks x = true :=
  isSimpleName_stagingName t.dialect hp.name

/-- A list of columns lacks a rare character if its words do. -/
theorem lacks_list (hp : t.Named) (hx : x ∈ rareChars) {between : String} {columns : List Column}
    {item : Column → Statement} (hsub : ∀ c ∈ columns, c ∈ t.columns)
    (hbetween : (rareChars.all fun c => (Fragment.word between).lacks c) = true)
    (hitem : ∀ c, isSimpleName c.name = true → (item c).lacks x = true) :
    (joined between (columns.map item)).lacks x = true := by
  refine lacks_joined (lacks_word hx hbetween) fun p hm => ?_
  obtain ⟨c, hc, rfl⟩ := List.mem_map.1 hm
  exact hitem c (simple_columns hp hsub c hc)

theorem lacks_columnList (hp : t.Named) (hx : x ∈ rareChars) {columns : List Column}
    (hsub : ∀ c ∈ columns, c ∈ t.columns) : (Table.columnList columns).lacks x = true := by
  refine lacks_list hp hx hsub (by decide) fun c hc => ?_
  rw [lacks_cons, lacks_name hc, lacks_nil, Bool.and_self]

theorem lacks_columnListOf (hp : t.Plain) (hx : x ∈ rareChars) {columns : List Column}
    (hsub : ∀ c ∈ columns, c ∈ t.columns) : (Table.columnListOf "s" columns).lacks x = true := by
  refine lacks_list hp.named hx hsub (by decide) fun c hc => ?_
  simp (disch := decide) only [lacks_cons, lacks_nil, lacks_word hx, lacks_name hc, Bool.and_self]

theorem lacks_keyMatch (hp : t.Plain) (hx : x ∈ rareChars) :
    (Table.keyMatch "t" "s" t.keyColumns).lacks x = true := by
  have hsub : ∀ c ∈ t.keyColumns, c ∈ t.columns := fun c hc => Table.mem_columns_of_mem_keyColumns hc
  refine lacks_list hp.named hx hsub (by decide) fun c hc => ?_
  simp (disch := decide) only [lacks_cons, lacks_nil, lacks_word hx, lacks_name hc, Bool.and_self]

theorem lacks_aliasedSettings (hp : t.Plain) (hx : x ∈ rareChars) :
    t.aliasedSettings.lacks x = true := by
  have hsub : ∀ c ∈ t.updateColumns, c ∈ t.columns := fun c hc => (Table.mem_updateColumns.1 hc).1
  refine lacks_list hp.named hx hsub (by decide) fun c hc => ?_
  simp (disch := decide) only [lacks_cons, lacks_nil, lacks_word hx, lacks_name hc, Bool.and_self]

theorem lacks_plainSettings (hp : t.Plain) (hx : x ∈ rareChars) :
    t.plainSettings.lacks x = true := by
  have hsub : ∀ c ∈ t.updateColumns, c ∈ t.columns := fun c hc => (Table.mem_updateColumns.1 hc).1
  refine lacks_list hp.named hx hsub (by decide) fun c hc => ?_
  simp (disch := decide) only [lacks_cons, lacks_nil, lacks_word hx, lacks_name hc, Bool.and_self]

theorem lacks_changeFilter (hx : x ∈ rareChars) (kind : ChangeKind) :
    (Table.changeFilter kind).lacks x = true := by
  have htag : (Fragment.word (" = " ++ Text.numeral kind.tag)).lacks x = true := by
    refine lacks_word hx ?_
    cases kind <;> decide +kernel
  simp (disch := decide) only [Table.changeFilter, lacks_cons, lacks_nil, lacks_word hx, htag,
    lacks_name isSimpleName_op, Bool.and_self]

theorem lacks_joinStaging (hp : t.Plain) (hx : x ∈ rareChars) (kind : ChangeKind) :
    (t.joinStaging kind).lacks x = true := by
  simp (disch := decide) only [Table.joinStaging, lacks_append, lacks_cons, lacks_word hx,
    lacks_target hp.named hx, lacks_stagingName hp, lacks_keyMatch hp hx, lacks_changeFilter hx,
    Bool.and_self]

theorem lacks_matchStaging (hp : t.Plain) (hx : x ∈ rareChars) (kind : ChangeKind) :
    (t.matchStaging kind).lacks x = true := by
  simp (disch := decide) only [Table.matchStaging, lacks_append, lacks_cons, lacks_word hx,
    lacks_stagingName hp, lacks_keyMatch hp hx, lacks_changeFilter hx, Bool.and_self]

theorem lacks_joinedUpdate (hp : t.Plain) (hx : x ∈ rareChars) : t.joinedUpdate.lacks x = true := by
  simp (disch := decide) only [Table.joinedUpdate, lacks_append, lacks_cons, lacks_word hx,
    lacks_aliasedSettings hp hx, lacks_joinStaging hp hx, Bool.and_self]

theorem lacks_joinedDelete (hp : t.Plain) (hx : x ∈ rareChars) : t.joinedDelete.lacks x = true := by
  simp (disch := decide) only [Table.joinedDelete, lacks_cons, lacks_word hx,
    lacks_joinStaging hp hx, Bool.and_self]

theorem lacks_fromUpdate (hp : t.Plain) (hx : x ∈ rareChars) : t.fromUpdate.lacks x = true := by
  simp (disch := decide) only [Table.fromUpdate, lacks_append, lacks_cons, lacks_word hx,
    lacks_target hp.named hx, lacks_plainSettings hp hx, lacks_matchStaging hp hx, Bool.and_self]

theorem lacks_usingDelete (hp : t.Plain) (hx : x ∈ rareChars) : t.usingDelete.lacks x = true := by
  simp (disch := decide) only [Table.usingDelete, lacks_append, lacks_cons, lacks_word hx,
    lacks_target hp.named hx, lacks_matchStaging hp hx, Bool.and_self]

/-- The characters that end a statement of a script or a line of it. -/
def lineChars : List Char := [';', '\n']

theorem mem_rareChars_of_mem_lineChars (hx : x ∈ lineChars) : x ∈ rareChars := by
  have h : (lineChars.all fun c => decide (c ∈ rareChars)) = true := by decide
  simpa using List.all_eq_true.1 h x hx

theorem lacks_lineWord (hx : x ∈ lineChars) {w : String}
    (h : (lineChars.all fun c => (Fragment.word w).lacks c) = true) :
    (Fragment.word w).lacks x = true :=
  List.all_eq_true.1 h x hx

/-- The insert has parentheses around its columns, but no semicolon and no end of line. -/
theorem lacks_applyInsert (hp : t.Plain) (hx : x ∈ lineChars) : t.applyInsert.lacks x = true := by
  have hrare := mem_rareChars_of_mem_lineChars hx
  have hsub : ∀ c ∈ t.insertColumns, c ∈ t.columns := fun c hc => (Table.mem_insertColumns.1 hc).1
  simp (disch := decide) only [Table.applyInsert, lacks_append, lacks_cons, lacks_lineWord hx,
    lacks_target hp.named hrare, lacks_columnList hp.named hrare hsub, lacks_columnListOf hp hrare hsub,
    lacks_stagingName hp, lacks_changeFilter hrare, Bool.and_self]

/-! ## The pieces stand by themselves -/

theorem endsSolid_changeFilter (d : Dialect) (kind : ChangeKind) :
    Text.endsSolid ((Table.changeFilter kind).chars d) = true := by
  rw [chars_changeFilter, kindCondition, ← List.append_assoc, ← List.append_assoc, toList_tag]
  refine Text.endsSolid_append _ ?_
  cases kind <;> decide

theorem endsSolid_name (d : Dialect) {n : String} (h : isSimpleName n = true) :
    Text.endsSolid (Statement.chars d [.name n]) = true := by
  rw [Statement.chars_name, Statement.chars_nil, List.append_nil, toList_quote d h,
    ← List.cons_append]
  refine Text.endsSolid_append _ ?_
  cases d <;> decide

theorem endsSolid_cons (f : Fragment) {s : Statement} (h : Text.endsSolid (s.chars d) = true) :
    Text.endsSolid (Statement.chars d (f :: s)) = true :=
  Text.endsSolid_append _ h

theorem endsSolid_append (s : Statement) {u : Statement} (h : Text.endsSolid (u.chars d) = true) :
    Text.endsSolid ((s ++ u).chars d) = true := by
  rw [Statement.chars_append]
  exact Text.endsSolid_append _ h

theorem isPiece_chars {s rest : Statement} {w : String} (hs : s = .word w :: rest)
    (hb : Text.beginsSolid w.toList = true) (he : Text.endsSolid (s.chars d) = true)
    (hl : s.lacks ';' = true) : IsPiece (s.chars d) := by
  refine ⟨?_, he, notMem_chars (by decide) hl⟩
  rw [hs, Statement.chars_word]
  exact Text.beginsSolid_append hb _

theorem mem_semicolon : ';' ∈ rareChars := by decide

theorem isPiece_applyInsert (hp : t.Plain) : IsPiece (t.applyInsert.chars t.dialect) :=
  isPiece_chars rfl (by decide)
    (endsSolid_append _ <| endsSolid_cons _ <| endsSolid_cons _ <| endsSolid_cons _ <|
      endsSolid_changeFilter _ _)
    (lacks_applyInsert hp (by decide))

theorem endsSolid_joinStaging (t : Table) (d : Dialect) (kind : ChangeKind) :
    Text.endsSolid ((t.joinStaging kind).chars d) = true :=
  endsSolid_append _ <| endsSolid_cons _ <| endsSolid_changeFilter _ _

theorem isPiece_joinedUpdate (hp : t.Plain) : IsPiece (t.joinedUpdate.chars t.dialect) :=
  isPiece_chars rfl (by decide) (endsSolid_append _ <| endsSolid_joinStaging _ _ _)
    (lacks_joinedUpdate hp mem_semicolon)

theorem isPiece_joinedDelete (hp : t.Plain) : IsPiece (t.joinedDelete.chars t.dialect) :=
  isPiece_chars rfl (by decide) (endsSolid_cons _ <| endsSolid_joinStaging _ _ _)
    (lacks_joinedDelete hp mem_semicolon)

theorem isPiece_dropStaging (hp : t.Plain) : IsPiece (t.dropStaging.chars t.dialect) := by
  have hname := isSimpleName_stagingName t.dialect hp.name
  refine isPiece_chars rfl (by decide) (endsSolid_cons _ (endsSolid_name _ hname)) ?_
  simp (disch := decide) only [Table.dropStaging, lacks_cons, lacks_nil, lacks_word mem_semicolon,
    lacks_stagingName hp, Bool.and_self]

theorem isPiece_indexPieces (hp : t.Plain) :
    ∀ p ∈ t.indexPieces.map (Statement.chars t.dialect), IsPiece p := by
  have hname := isSimpleName_stagingName t.dialect hp.name
  have hsub : ∀ c ∈ t.keyColumns, c ∈ t.columns := fun c hc => Table.mem_columns_of_mem_keyColumns hc
  have hclose : Text.endsSolid (Statement.chars t.dialect [.word ")"]) = true := by
    cases t.dialect <;> decide
  -- Decided for each word in turn, when it serves to rewrite.
  have hword {w : String} (h : (Fragment.word w).lacks ';' = true) : (Fragment.word w).lacks ';' = true := h
  have hclustered : IsPiece (t.clusteredIndex.chars t.dialect) := by
    refine isPiece_chars rfl (by decide) (endsSolid_append _ hclose) ?_
    simp (disch := decide) only [Table.clusteredIndex, lacks_append, lacks_cons, lacks_nil, hword,
      lacks_name (isSimpleName_index hp), lacks_stagingName hp,
      lacks_columnList hp.named mem_semicolon hsub, Bool.and_self]
  have hplain : IsPiece (t.plainIndex.chars t.dialect) := by
    refine isPiece_chars rfl (by decide) (endsSolid_append _ hclose) ?_
    simp (disch := decide) only [Table.plainIndex, lacks_append, lacks_cons, lacks_nil, hword,
      lacks_stagingName hp, lacks_columnList hp.named mem_semicolon hsub, Bool.and_self]
  have hanalyze : IsPiece (t.analyzeStaging.chars t.dialect) := by
    refine isPiece_chars rfl (by decide) (endsSolid_cons _ (endsSolid_name _ hname)) ?_
    simp (disch := decide) only [Table.analyzeStaging, lacks_cons, lacks_nil,
      lacks_word mem_semicolon, lacks_stagingName hp, Bool.and_self]
  intro p hm
  rw [Table.indexPieces] at hm
  cases hd : t.dialect <;> simp only [hd] at hm hclustered hplain hanalyze
  · obtain rfl : p = _ := by simpa using hm
    exact hclustered
  · rcases (by simpa using hm : p = _ ∨ p = _) with rfl | rfl
    · exact hplain
    · exact hanalyze

/-- Each statement of SQL Server's script but the last one stands by itself. -/
theorem isPiece_sqlServerPieces (hp : t.Plain) :
    ∀ p ∈ t.sqlServerPieces.map (Statement.chars t.dialect), IsPiece p := by
  have hword (w : String) (hb : Text.beginsSolid w.toList = true) (he : Text.endsSolid w.toList = true)
      (hl : (Fragment.word w).lacks ';' = true) : IsPiece (Statement.chars t.dialect [.word w]) := by
    have hchars : Statement.chars t.dialect [.word w] = w.toList := by
      rw [Statement.chars_word, Statement.chars_nil, List.append_nil]
    refine isPiece_chars rfl hb (hchars ▸ he) ?_
    rw [lacks_cons, lacks_nil, hl, Bool.and_self]
  have hquiet := hword "SET NOCOUNT ON" (by decide) (by decide) (by decide)
  have hdeclare : IsPiece (Table.declaration.chars t.dialect) :=
    hword _ (by decide) (by decide) (by decide)
  have hinserted : IsPiece ((Table.keepCount "inserted").chars t.dialect) :=
    hword _ (by decide) (by decide) (by decide)
  have hupdated : IsPiece ((Table.keepCount "updated").chars t.dialect) :=
    hword _ (by decide) (by decide) (by decide)
  have hdeleted : IsPiece ((Table.keepCount "deleted").chars t.dialect) :=
    hword _ (by decide) (by decide) (by decide)
  intro p hm
  obtain ⟨s, hs, rfl⟩ := List.mem_map.1 hm
  simp only [Table.sqlServerPieces, Table.updatePieces, List.mem_append, List.mem_cons,
    List.not_mem_nil, or_false, List.mem_ite_nil_left] at hs
  -- In the order of the script; the update is there if there are columns for it.
  rcases hs with ((rfl | rfl | rfl | rfl) | hs) | (rfl | rfl | rfl)
  · exact hquiet
  · exact hdeclare
  · exact isPiece_applyInsert hp
  · exact hinserted
  · rcases hs.2 with rfl | rfl
    · exact isPiece_joinedUpdate hp
    · exact hupdated
  · exact isPiece_joinedDelete hp
  · exact hdeleted
  · exact isPiece_dropStaging hp

end Tablewright
