import Tablewright.Proofs.StagingTables
import Tablewright.Proofs.StatementFragments

/-!
# The names in statements

No name escapes its quotes. Whatever characters the names of a table hold, the quoted names in the text
of each of its statements are the names that the statement means, in order. `Table.namesMeant` says
which these are; the scripts that apply staged changes are read piece by piece.

## Key results

- `shows_sqlServerScript`, `shows_postgresScript`: the names in a script are those of its pieces
- `names_texts`: the names in the texts of a table are the names that are meant
-/

namespace Tablewright

open Sql Statement

/-! ## The names that are meant -/

/-- The quoted names in the texts for staging changes, in order. -/
structure StagingNames where
  create : List String
  index : List String
  apply : List String
  applyIndexed : List String
  deriving DecidableEq, Repr

/-- The quoted names in the texts of a table's statements on rows and for staging, in order. -/
@[ext]
structure TableNames where
  insert : List String
  insertBatch : List String
  update : Option (List String)
  delete : Option (List String)
  deleteBatch : Option (List String)
  upsert : Option (List String)
  truncate : List String
  select : List String
  find : Option (List String)
  staging : Option StagingNames
  deriving DecidableEq, Repr

/-- The names in texts for staging. -/
def StagingTexts.names (d : Dialect) (x : StagingTexts) : StagingNames where
  create := namesIn d x.create.toList
  index := namesIn d x.index.toList
  apply := namesIn d x.apply.toList
  applyIndexed := namesIn d x.applyIndexed.toList

/-- The names in texts of statements. -/
def TableTexts.names (d : Dialect) (x : TableTexts) : TableNames where
  insert := namesIn d x.insert.toList
  insertBatch := namesIn d x.insertBatch.toList
  update := x.update.map fun text => namesIn d text.toList
  delete := x.delete.map fun text => namesIn d text.toList
  deleteBatch := x.deleteBatch.map fun text => namesIn d text.toList
  upsert := x.upsert.map fun text => namesIn d text.toList
  truncate := namesIn d x.truncate.toList
  select := namesIn d x.select.toList
  find := x.find.map fun text => namesIn d text.toList
  staging := x.staging.map (·.names d)

namespace Table

variable (t : Table)

/-- The names in the creation of the table. -/
def createNames : List String :=
  t.targetNames ++ columnNames t.columns ++
    if t.keyColumns.isEmpty then [] else ("PK_" ++ t.name) :: columnNames t.keyColumns

/-- The names in an upsert. -/
def upsertNames : List String :=
  t.targetNames ++ columnNames t.insertColumns ++
    match t.dialect.upsertStrategy with
    | .merge => columnNamesTwice t.upsertKeys ++ columnNamesTwice t.updateColumns ++
        columnNames t.insertColumns ++ columnNames t.insertColumns
    | .onConflict => columnNames t.upsertKeys ++ columnNamesTwice t.updateColumns

/-- The names in the index of the staging table. -/
def indexNames : List String :=
  match t.dialect with
  | .sqlServer => ("IX_" ++ t.name ++ "_bulk") :: t.stagingName :: columnNames t.keyColumns
  | .postgres => t.stagingName :: columnNames t.keyColumns ++ [t.stagingName]

/-- The names in the condition that joins the staged rows of one kind. -/
def joinNames : List String :=
  t.stagingName :: columnNamesTwice t.keyColumns ++ [opColumn]

/-- The names in the script that applies staged changes. -/
def applyNames : List String :=
  t.targetNames ++ columnNames t.insertColumns ++ columnNames t.insertColumns ++
    [t.stagingName, opColumn] ++
    match t.dialect with
    | .sqlServer =>
      (if t.updateColumns.isEmpty then []
        else columnNamesTwice t.updateColumns ++ t.targetNames ++ t.joinNames) ++
        t.targetNames ++ t.joinNames ++ [t.stagingName, "inserted", "updated", "deleted"]
    | .postgres =>
      (if t.updateColumns.isEmpty then []
        else t.targetNames ++ columnNamesTwice t.updateColumns ++ t.joinNames) ++
        t.targetNames ++ t.joinNames ++ ["inserted", "updated", "deleted", t.stagingName]

/-- The names that the statements on a table mean. -/
def namesMeant : TableNames where
  insert := t.targetNames ++ columnNames t.insertColumns
  insertBatch := t.targetNames ++ columnNames t.insertColumns
  update :=
    if t.updateColumns.isEmpty || t.keys.isEmpty then none
    else some (t.targetNames ++ columnNames t.updateColumns ++ columnNames t.keyColumns)
  delete := if t.keys.isEmpty then none else some (t.targetNames ++ columnNames t.keyColumns)
  deleteBatch :=
    match t.keyColumns with
    | [key] => some (t.targetNames ++ [key.name])
    | _ => none
  upsert := if t.upsertKeys.isEmpty then none else some t.upsertNames
  truncate := t.targetNames
  select := t.columns.flatMap queryNames ++ t.targetNames
  find :=
    if t.keys.isEmpty then none
    else some (t.columns.flatMap queryNames ++ t.targetNames ++ columnNames t.keyColumns)
  staging :=
    if t.keyColumns.isEmpty then none
    else some {
      create := t.stagingName :: columnNames t.columns ++ [opColumn]
      index := t.indexNames
      apply := t.applyNames
      applyIndexed := t.indexNames ++ t.applyNames }

variable {t} {d : Dialect}

/-! ## Creating tables -/

/-- No quote stands in a type. -/
theorem lacksAll_typeText (c : Column) : lacksAll quoteChars c.typeText = true := by
  refine List.all_eq_true.2 fun x hx => ?_
  simpa using c.notMem_typeText (List.mem_append_right [';', '\n'] hx)

/-- The definition of a column opens no quotes but those of its name, unless its default does. -/
theorem shows_columnDefinition {c : Column}
    (hdefault : ∀ e ∈ c.default, t.dialect.openQuote ∉ e.toList) :
    Shows t.dialect [t.dialect.openQuote] (t.columnDefinition c) [c.name] [] := by
  have hquote : ∀ x ∈ [t.dialect.openQuote], x ∈ quoteChars :=
    List.forall_mem_singleton.2 (openQuote_mem_quoteChars t.dialect)
  have htype := lacksAll_mono hquote (lacksAll_typeText c)
  have hidentity : lacksAll [t.dialect.openQuote]
      (if t.isIdentity c.property then " " ++ t.dialect.identityClause else "") = true := by
    split <;> cases t.dialect <;> decide
  have himplicit : ∀ e, t.implicitDefault c = some e → t.dialect.openQuote ∉ e.toList := by
    intro e he
    rw [implicitDefault] at he
    split at he
    · rw [← Option.some.inj he]
      cases t.dialect <;> decide
    · exact absurd he (Option.some_ne_none e).symm
  have hnull : lacksAll [t.dialect.openQuote] (if c.nullable then " NULL" else " NOT NULL") = true := by
    split <;> cases t.dialect <;> decide
  have hblank : isBoundary [t.dialect.openQuote] " " = true := by cases t.dialect <;> decide
  refine (shows_name c.name).ended (isBoundary_append (isBoundary_append (isBoundary_append
    (isBoundary_append hblank htype) hidentity) ?_) hnull)
  cases hexpr : c.default <|> t.implicitDefault c with
  | none => cases t.dialect <;> decide
  | some e =>
    have he : t.dialect.openQuote ∉ e.toList := by
      cases hc : c.default with
      | some e' =>
        rw [hc] at hexpr
        exact Option.some.inj hexpr ▸ hdefault e' hc
      | none =>
        rw [hc] at hexpr
        exact himplicit e hexpr
    refine lacksAll_append ?_ (List.all_eq_true.2 fun x hx => ?_)
    · cases t.dialect <;> decide
    · rw [List.mem_singleton.1 hx]
      simpa using he

/-- Pieces with the names of each show these names one after the other. -/
theorem shows_pieces {bad : List Char} {w : String} (hw : isBoundary bad w = true)
    {pieces : List (Statement × List String)} (h : ∀ p ∈ pieces, Shows d bad p.1 p.2 []) :
    Shows d bad (joined w (pieces.map (·.1))) (pieces.flatMap (·.2)) [] := by
  have hs := shows_joined hw h
  rwa [List.flatMap_eq_nil_iff.2 fun _ _ => rfl] at hs

/-- The definitions of the columns and of the key with the names of each. -/
def createPieces (t : Table) : List (Statement × List String) :=
  t.columns.map (fun c => (t.columnDefinition c, [c.name])) ++
    if t.keyColumns.isEmpty then []
    else [(.word "CONSTRAINT " :: .name ("PK_" ++ t.name) :: .word " PRIMARY KEY (" ::
      columnList t.keyColumns ++ [.word ")"], ("PK_" ++ t.name) :: columnNames t.keyColumns)]

/-- Creating a table names its columns and its key. -/
theorem shows_create
    (hdefault : ∀ c ∈ t.columns, ∀ e ∈ c.default, t.dialect.openQuote ∉ e.toList) :
    Shows t.dialect [t.dialect.openQuote] t.create t.createNames [] := by
  have hquote : ∀ x ∈ [t.dialect.openQuote], x ∈ quoteChars :=
    List.forall_mem_singleton.2 (openQuote_mem_quoteChars t.dialect)
  have hrow : ∀ x ∈ [t.dialect.openQuote], x ∈ rowChars :=
    fun x hx => mem_rowChars_of_mem_quoteChars (hquote x hx)
  have hword {w : String} (hw : isBoundary quoteChars w = true) :
      isBoundary [t.dialect.openQuote] w = true := by
    rw [isBoundary, Bool.and_eq_true] at hw ⊢
    exact ⟨hw.1, lacksAll_mono hquote hw.2⟩
  have hpieces : ∀ p ∈ t.createPieces, Shows t.dialect [t.dialect.openQuote] p.1 p.2 [] := by
    intro p hp
    rcases List.mem_append.1 hp with hp | hp
    · obtain ⟨c, hc, rfl⟩ := List.mem_map.1 hp
      exact shows_columnDefinition (hdefault c hc)
    · split at hp
      · exact absurd hp List.not_mem_nil
      · rw [List.mem_singleton.1 hp]
        exact (((shows_name _).followed (hword (by decide)) (shows_columnList.mono hrow)).ended
          (hword (by decide))).phrase (lacksAll_mono hrow (by decide))
  have hcreate : t.create = .word "CREATE TABLE " :: t.target ++ .word " (" ::
      joined ", " (t.createPieces.map (·.1)) ++ [.word ")"] := by
    rw [create, createPieces, List.map_append, List.map_map]
    cases t.keyColumns <;> rfl
  have hnames : t.createNames = t.targetNames ++ t.createPieces.flatMap (·.2) := by
    rw [createNames, createPieces, List.flatMap_append, List.flatMap_map, ← List.map_eq_flatMap]
    cases t.keyColumns <;> simp [columnNames]
  rw [hcreate, hnames]
  exact (((shows_target.mono hrow).phrase (lacksAll_mono hrow (by decide))).followed
    (hword (by decide)) (shows_pieces (hword (by decide)) hpieces)).ended (hword (by decide))

theorem shows_stagedColumns :
    Shows d quoteChars t.stagedColumns (columnNames t.columns ++ [opColumn]) [] := by
  have hpieces : ∀ p ∈ t.columns.map (fun c => (stagedColumn c, [c.name])) ++
      [(t.tagColumn, [opColumn])], Shows d quoteChars p.1 p.2 [] := by
    intro p hp
    rcases List.mem_append.1 hp with hp | hp
    · obtain ⟨c, -, rfl⟩ := List.mem_map.1 hp
      exact (shows_name c.name).ended
        (isBoundary_append (isBoundary_append (by decide) (lacksAll_typeText c)) (by decide))
    · rw [List.mem_singleton.1 hp]
      exact (shows_name opColumn).ended (by cases t.dialect <;> decide)
  have h := shows_pieces (w := ", ") (by decide) hpieces
  rw [List.map_append, List.map_map, List.flatMap_append, List.flatMap_map,
    ← List.map_eq_flatMap] at h
  exact h

theorem shows_stagingCreate :
    Shows d quoteChars t.stagingCreate (t.stagingName :: columnNames t.columns ++ [opColumn]) [] := by
  have hcreate : lacksAll quoteChars t.createWords = true := by
    rw [createWords]
    split <;> decide
  exact (((shows_name t.stagingName).followed (by decide) shows_stagedColumns).ended
    (by decide)).phrase hcreate

theorem shows_stagingIndex : Shows d quoteChars t.stagingIndex t.indexNames [] := by
  have hkeys : Shows d quoteChars (columnList t.keyColumns) (columnNames t.keyColumns) [] :=
    shows_columnList.mono fun _ => mem_rowChars_of_mem_quoteChars
  have hstaging : Shows d quoteChars (.name t.stagingName :: .word " (" :: columnList t.keyColumns)
      (t.stagingName :: columnNames t.keyColumns) [] :=
    (shows_name t.stagingName).followed (by decide) hkeys
  rw [stagingIndex, indexNames]
  cases t.dialect with
  | sqlServer =>
    exact (((shows_name _).followed (by decide) hstaging).ended (by decide)).phrase (by decide)
  | postgres =>
    exact (hstaging.followed (by decide) (shows_name t.stagingName)).phrase (by decide)

/-! ## Pieces of scripts -/

theorem shows_row {s : Statement} {names : List String} {slots : List (String × Nat)}
    (h : Shows d rowChars s names slots) : Shows d quoteChars s names slots :=
  h.mono fun _ => mem_rowChars_of_mem_quoteChars

theorem shows_changeFilter (kind : ChangeKind) :
    Shows d quoteChars (changeFilter kind) [opColumn] [] := by
  refine ((shows_name opColumn).ended ?_).phrase (by decide)
  cases kind <;> decide +kernel

theorem shows_applyInsert :
    Shows d quoteChars t.applyInsert
      (t.targetNames ++ columnNames t.insertColumns ++ columnNames t.insertColumns ++
        [t.stagingName, opColumn]) [] :=
  ((((shows_row shows_target).phrase (by decide)).followed (by decide)
    (shows_row shows_columnList)).followed (by decide)
      (shows_row (shows_columnListOf (by decide)))).followed (by decide)
        ((shows_name t.stagingName).followed (by decide) (shows_changeFilter .insert))

theorem shows_stagingKeys :
    Shows d quoteChars (keyMatch "t" "s" t.keyColumns) (columnNamesTwice t.keyColumns) [] :=
  shows_row (shows_keyMatch (by decide) (by decide))

/-- The join of SQL Server behind the words that say what is joined. -/
theorem shows_joinStaging {s : Statement} {names : List String} (hs : Shows d quoteChars s names [])
    (kind : ChangeKind) :
    Shows d quoteChars (s ++ t.joinStaging kind) (names ++ t.targetNames ++ t.joinNames) [] := by
  have hsource : Shows d quoteChars (.name t.stagingName :: .word " AS s ON " ::
      keyMatch "t" "s" t.keyColumns) (t.stagingName :: columnNamesTwice t.keyColumns) [] :=
    (shows_name t.stagingName).followed (by decide) shows_stagingKeys
  have h : Shows d quoteChars (s ++ .word " FROM " :: t.target ++ .word " AS t INNER JOIN " ::
      .name t.stagingName :: .word " AS s ON " :: keyMatch "t" "s" t.keyColumns ++
        .word " WHERE " :: changeFilter kind) _ _ :=
    ((hs.followed (by decide) (shows_row shows_target)).followed (by decide) hsource).followed
      (by decide) (shows_changeFilter kind)
  -- The words of the join begin behind what stands in front of it.
  rw [joinStaging, joinNames, ← List.append_assoc, ← List.append_assoc]
  rwa [List.append_assoc _ (_ :: _) [opColumn]] at h

theorem shows_matchStaging (kind : ChangeKind) :
    Shows d quoteChars (t.matchStaging kind) t.joinNames [] :=
  ((shows_name t.stagingName).followed (by decide) shows_stagingKeys).followed (by decide)
    (shows_changeFilter kind)

theorem shows_joinedUpdate :
    Shows d quoteChars t.joinedUpdate
      (columnNamesTwice t.updateColumns ++ t.targetNames ++ t.joinNames) [] := by
  refine shows_joinStaging (Shows.phrase (by decide) (shows_row (shows_twice (by decide) ?_))) .update
  exact fun c => ((shows_name c.name).followed (by decide) (shows_name c.name)).phrase (by decide)

theorem shows_joinedDelete :
    Shows d quoteChars t.joinedDelete (t.targetNames ++ t.joinNames) [] :=
  shows_joinStaging (shows_nil.phrase (by decide)) .delete

theorem shows_fromUpdate :
    Shows d quoteChars t.fromUpdate
      (t.targetNames ++ columnNamesTwice t.updateColumns ++ t.joinNames) [] := by
  have hsettings : Shows d rowChars t.plainSettings (columnNamesTwice t.updateColumns) [] :=
    shows_twice (by decide) fun c => (shows_name c.name).followed (by decide) (shows_name c.name)
  exact (((shows_row shows_target).phrase (by decide)).followed (by decide)
    (shows_row hsettings)).followed (by decide) (shows_matchStaging .update)

theorem shows_usingDelete :
    Shows d quoteChars t.usingDelete (t.targetNames ++ t.joinNames) [] :=
  ((shows_row shows_target).phrase (by decide)).followed (by decide) (shows_matchStaging .delete)

theorem shows_dropStaging : Shows d quoteChars t.dropStaging [t.stagingName] [] :=
  (shows_name t.stagingName).phrase (by decide)

theorem shows_keepCount {variableName : String}
    (h : lacksAll quoteChars ("SET @" ++ variableName ++ " = @@ROWCOUNT") = true) :
    Shows d quoteChars (keepCount variableName) [] [] :=
  shows_nil.phrase h

theorem shows_part {name : String} {inner : Statement} {names : List String}
    (hname : lacksAll quoteChars (name ++ " AS (") = true) (h : Shows d quoteChars inner names []) :
    Shows d quoteChars (part name inner) names [] :=
  (h.phrase hname).ended (by decide)

/-! ## Scripts -/

/-- The statements of SQL Server's script with the names of each. -/
def sqlServerScript (t : Table) : List (Statement × List String) :=
  [([.word "SET NOCOUNT ON"], []), (declaration, []),
    (t.applyInsert, t.targetNames ++ columnNames t.insertColumns ++ columnNames t.insertColumns ++
      [t.stagingName, opColumn]),
    (keepCount "inserted", [])] ++
    (if t.updateColumns.isEmpty then []
      else [(t.joinedUpdate, columnNamesTwice t.updateColumns ++ t.targetNames ++ t.joinNames),
        (keepCount "updated", [])]) ++
    [(t.joinedDelete, t.targetNames ++ t.joinNames), (keepCount "deleted", []),
      (t.dropStaging, [t.stagingName]),
      (variablesQuery ++ [.word ";"], ["inserted", "updated", "deleted"])]

/-- The parts of PostgreSQL's query with the names of each. -/
def postgresParts (t : Table) : List (Statement × List String) :=
  (part "ins" t.applyInsert, t.targetNames ++ columnNames t.insertColumns ++
      columnNames t.insertColumns ++ [t.stagingName, opColumn]) ::
    (if t.updateColumns.isEmpty then []
      else [(part "upd" t.fromUpdate,
        t.targetNames ++ columnNamesTwice t.updateColumns ++ t.joinNames)]) ++
    [(part "del" t.usingDelete, t.targetNames ++ t.joinNames)]

theorem shows_variablesQuery :
    Shows d quoteChars (variablesQuery ++ [.word ";"]) ["inserted", "updated", "deleted"] [] :=
  ((((shows_name "inserted").phrase (by decide)).followed (by decide)
    (shows_name "updated")).followed (by decide) (shows_name "deleted")).ended (by decide)

theorem shows_sqlServerScript : ∀ p ∈ t.sqlServerScript, Shows d quoteChars p.1 p.2 [] := by
  intro p hp
  simp only [sqlServerScript, List.mem_append, List.mem_cons, List.not_mem_nil, or_false] at hp
  rcases hp with ((rfl | rfl | rfl | rfl) | hp) | rfl | rfl | rfl | rfl
  · exact shows_nil.phrase (by decide)
  · exact shows_nil.phrase (by decide)
  · exact shows_applyInsert
  · exact shows_keepCount (by decide)
  · by_cases hempty : t.updateColumns.isEmpty = true
    · simp [hempty] at hp
    · simp only [hempty, Bool.false_eq_true, if_false, List.mem_cons, List.not_mem_nil,
        or_false] at hp
      rcases hp with rfl | rfl
      · exact shows_joinedUpdate
      · exact shows_keepCount (by decide)
  · exact shows_joinedDelete
  · exact shows_keepCount (by decide)
  · exact shows_dropStaging
  · exact shows_variablesQuery

theorem shows_partCounts :
    Shows d quoteChars t.partCounts ["inserted", "updated", "deleted"] [] := by
  have hupdated : isBoundary quoteChars (", " ++ (if t.updateColumns.isEmpty then "0"
      else "(SELECT COUNT(*) FROM upd)") ++ "::BIGINT AS ") = true := by
    split <;> decide
  exact (((shows_name "inserted").phrase (by decide)).followed hupdated
    (shows_name "updated")).followed (by decide) (shows_name "deleted")

theorem shows_postgresParts : ∀ p ∈ t.postgresParts, Shows d quoteChars p.1 p.2 [] := by
  intro p hp
  simp only [postgresParts, List.mem_append, List.mem_cons, List.not_mem_nil, or_false] at hp
  rcases hp with (rfl | hp) | rfl
  · exact shows_part (by decide) shows_applyInsert
  · by_cases hempty : t.updateColumns.isEmpty = true
    · simp [hempty] at hp
    · simp only [hempty, Bool.false_eq_true, if_false, List.mem_cons, List.not_mem_nil,
        or_false] at hp
      rw [hp]
      exact shows_part (by decide) shows_fromUpdate
  · exact shows_part (by decide) shows_usingDelete

theorem parts_eq (t : Table) : t.parts = t.postgresParts.map (·.1) := by
  rw [parts, postgresParts]
  split <;> rfl

theorem shows_withParts :
    Shows d quoteChars t.withParts
      (t.postgresParts.flatMap (·.2) ++ ["inserted", "updated", "deleted"]) [] := by
  have hparts := shows_pieces (w := ",\n") (by decide) (shows_postgresParts (d := d) (t := t))
  rw [withParts, parts_eq]
  exact (hparts.phrase (by decide)).followed (by decide) shows_partCounts

/-- The script that applies staged changes, put together from its statements. -/
def script (t : Table) : Statement :=
  match t.dialect with
  | .sqlServer => joined ";\n" (t.sqlServerScript.map (·.1))
  | .postgres => t.withParts ++ .word ";\n" :: t.dropStaging

theorem chars_script (t : Table) : t.script.chars t.dialect = t.apply.chars t.dialect := by
  rw [script, apply]
  cases t.dialect with
  | sqlServer =>
    have hpieces : t.sqlServerScript.map (·.1) =
        t.sqlServerPieces ++ [variablesQuery ++ [.word ";"]] := by
      rw [sqlServerScript, sqlServerPieces, updatePieces]
      split <;> rfl
    show (joined ";\n" (t.sqlServerScript.map (·.1))).chars _ = t.sqlServerApply.chars _
    rw [chars_joined, chars_sqlServerApply, hpieces, List.map_append, List.map_singleton, chars_append]
    rfl
  | postgres =>
    show (t.withParts ++ .word ";\n" :: t.dropStaging).chars _ = t.postgresApply.chars _
    rw [chars_postgresApply, List.singleton_append, List.intercalate_cons_cons,
      List.intercalate_singleton, chars_append, chars_word, List.append_assoc]

theorem shows_applyScript : Shows t.dialect quoteChars t.script t.applyNames [] := by
  rw [script, applyNames]
  cases t.dialect with
  | sqlServer =>
    have h := shows_pieces (w := ";\n") (by decide) (shows_sqlServerScript (d := .sqlServer) (t := t))
    have hnames : t.sqlServerScript.flatMap (·.2) =
        t.targetNames ++ columnNames t.insertColumns ++ columnNames t.insertColumns ++
          [t.stagingName, opColumn] ++ ((if t.updateColumns.isEmpty then []
            else columnNamesTwice t.updateColumns ++ t.targetNames ++ t.joinNames) ++
          t.targetNames ++ t.joinNames ++ [t.stagingName, "inserted", "updated", "deleted"]) := by
      rw [sqlServerScript]
      split <;> simp
    rwa [hnames] at h
  | postgres =>
    have h : Shows .postgres quoteChars (t.withParts ++ .word ";\n" :: t.dropStaging) _ _ :=
      shows_withParts.followed (by decide) shows_dropStaging
    have hnames : t.postgresParts.flatMap (·.2) ++ ["inserted", "updated", "deleted"] ++
          [t.stagingName] =
        t.targetNames ++ columnNames t.insertColumns ++ columnNames t.insertColumns ++
          [t.stagingName, opColumn] ++ ((if t.updateColumns.isEmpty then []
            else t.targetNames ++ columnNamesTwice t.updateColumns ++ t.joinNames) ++
          t.targetNames ++ t.joinNames ++ ["inserted", "updated", "deleted", t.stagingName]) := by
      rw [postgresParts]
      split <;> simp
    rwa [hnames] at h

/-! ## The texts of a table -/

/-- The names in the text of a readable statement. -/
theorem namesIn_textOf {s : Statement} {bad : List Char} {names : List String}
    {slots : List (String × Nat)} (h : Shows t.dialect bad s names slots)
    (hopen : t.dialect.openQuote ∈ bad) : namesIn t.dialect (t.textOf s).toList = names := by
  rw [textOf, toList_text, h.namesIn_chars hopen]

theorem namesIn_row {s : Statement} {names : List String} {slots : List (String × Nat)}
    (h : Shows t.dialect rowChars s names slots) : namesIn t.dialect (t.textOf s).toList = names :=
  namesIn_textOf h (by cases t.dialect <;> decide)

theorem namesIn_staging {s : Statement} {names : List String}
    (h : Shows t.dialect quoteChars s names []) : namesIn t.dialect (t.textOf s).toList = names :=
  namesIn_textOf h (by cases t.dialect <;> decide)

theorem names_upsert (t : Table) :
    (t.upsert.map t.textOf).map (fun text => namesIn t.dialect text.toList) =
      if t.upsertKeys.isEmpty then none else some t.upsertNames := by
  rw [upsert, upsertNames]
  cases hkeys : t.upsertKeys with
  | nil => rfl
  | cons key keys =>
    have hmerge := namesIn_row (shows_mergeUpsert (d := t.dialect) (t := t) (key :: keys))
    have hconflict := namesIn_row (shows_conflictUpsert (d := t.dialect) (t := t) (key :: keys))
    cases t.dialect.upsertStrategy with
    | merge => simpa using hmerge
    | onConflict => simpa using hconflict

theorem names_stagingTexts (t : Table) : t.stagingTexts.map (·.names t.dialect) =
    t.namesMeant.staging := by
  have happly : namesIn t.dialect (t.textOf t.apply).toList = t.applyNames := by
    rw [textOf, toList_text, ← chars_script, ← toList_text]
    exact namesIn_staging shows_applyScript
  have hindexed : namesIn t.dialect (t.textOf t.applyIndexed).toList = t.indexNames ++ t.applyNames := by
    have hchars : t.applyIndexed.chars t.dialect =
        (t.stagingIndex ++ .word ";\n" :: t.script).chars t.dialect := by
      rw [applyIndexed, chars_append, chars_append, chars_word, chars_word, chars_script]
    rw [textOf, toList_text, hchars, ← toList_text]
    exact namesIn_staging (shows_stagingIndex.followed (by decide) shows_applyScript)
  rw [stagingTexts, namesMeant]
  split
  · rfl
  · simp only [Option.map_some, StagingTexts.names, namesIn_staging shows_stagingCreate,
      namesIn_staging shows_stagingIndex, happly, hindexed]

/-- The names in the text of a statement that a table may lack. -/
theorem names_optional {condition : Bool} {s : Statement} {names : List String}
    (h : namesIn t.dialect (t.textOf s).toList = names) :
    ((if condition then none else some s).map t.textOf).map (fun text => namesIn t.dialect text.toList) =
      if condition then none else some names := by
  cases condition with
  | true => rfl
  | false => exact congrArg some h

theorem names_deleteBatch (t : Table) :
    (t.deleteBatch.map t.textOf).map (fun text => namesIn t.dialect text.toList) =
      match t.keyColumns with
      | [key] => some (t.targetNames ++ [key.name])
      | _ => none := by
  rw [deleteBatch]
  rcases t.keyColumns with _ | ⟨key, _ | ⟨other, keys⟩⟩
  · rfl
  · exact congrArg some (namesIn_row (shows_deleteHead key))
  · rfl

/-- No name escapes its quotes: the quoted names in the texts of a table are the names that are meant.
The definition of the table is read likewise unless the default of a column opens quotes of its own. -/
theorem names_texts (t : Table) :
    t.texts.names t.dialect = t.namesMeant ∧
      ((∀ c ∈ t.columns, ∀ e ∈ c.default, t.dialect.openQuote ∉ e.toList) →
        namesIn t.dialect t.texts.create.toList = t.createNames) := by
  refine ⟨TableNames.ext ?_ ?_ ?_ ?_ ?_ ?_ ?_ ?_ ?_ ?_, fun hdefault =>
    namesIn_textOf (shows_create hdefault) List.mem_cons_self⟩
  · exact namesIn_row shows_insert
  · exact namesIn_row shows_insertHead
  · exact names_optional (namesIn_row shows_rowUpdate)
  · exact names_optional (namesIn_row shows_rowDelete)
  · exact names_deleteBatch t
  · exact names_upsert t
  · exact namesIn_row shows_truncate
  · exact namesIn_row shows_select
  · exact names_optional (namesIn_row shows_rowQuery)
  · exact names_stagingTexts t

/-- A table whose names hold quotes, separators and keywords. -/
def hostile (d : Dialect) : Table where
  dialect := d
  schema := "a]]b\"\"c"
  name := "] (\"\", ["
  columns := [.ofProperty "" (.sqlServer .int),
    { Column.ofProperty "\" FROM [" (.postgres .text) with name := "@p1] WHERE $1\"", default := some "'x'" }]
  keys := [""]
  identity := []

/-- The names come out whole, with every quote in them. -/
theorem names_texts_hostile :
    (∀ c ∈ (hostile .sqlServer).columns, ∀ e ∈ c.default, '[' ∉ e.toList) ∧
    namesIn .sqlServer (hostile .sqlServer).texts.create.toList =
      ["a]]b\"\"c", "] (\"\", [", "", "@p1] WHERE $1\"", "PK_] (\"\", [", ""] ∧
    ((hostile .postgres).texts.names .postgres).find =
      some ["", "@p1] WHERE $1\"", "\" FROM [", "a]]b\"\"c", "] (\"\", [", ""] := by
  have hdefault : ∀ c ∈ (hostile .sqlServer).columns, ∀ e ∈ c.default, '[' ∉ e.toList := by decide
  have hfind := congrArg TableNames.find (names_texts (hostile .postgres)).1
  exact ⟨hdefault, ((names_texts (hostile .sqlServer)).2 hdefault).trans (by decide),
    hfind.trans (by decide)⟩

end Table

end Tablewright
