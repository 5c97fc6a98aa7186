import Tablewright.Memory.Statement
import Tablewright.Proofs.ApplyTexts

/-!
# Staging tables

Creating a staging table and loading changes into it. The definition of the table is read by its
parentheses and its quoted names: the types of its columns hold no quotes, and each parenthesis that
they open is closed.

## Key results

- `render_eq`: a type is its keyword, with its settings in parentheses or without
- `run_stagingCreate`: the statement opens the staging table with the columns of the table
- `run_load`: loading appends the staged rows
-/

namespace Tablewright

open Sql

/-! ## Types of columns -/

/-- Whether a character may stand in a type outside of its parentheses or inside them. -/
def isTypeChar (c : Char) : Bool :=
  Text.isAsciiWord c || c == ' ' || c == ','

theorem isTypeChar_keyword (t : ColumnType) : t.keyword.toList.all isTypeChar = true := by
  cases t with
  | sqlServer t => cases t <;> decide
  | postgres t => cases t <;> decide

theorem isTypeChar_numeral (n : Nat) : (Text.numeral n).toList.all isTypeChar = true := by
  have h := isPlainName_numeral n
  rw [isPlainName, List.all_eq_true] at h
  rw [List.all_eq_true]
  intro c hc
  rw [isTypeChar, h c hc, Bool.true_or, Bool.true_or]

/-- A type is its keyword, with its settings in parentheses or without. -/
theorem render_eq (t : ColumnType) (size : Option ColumnSize) (precision scale : Option Nat) :
    ∃ settings : List Char, settings.all isTypeChar = true ∧
      ((t.render size precision scale).toList = t.keyword.toList ∨
        (t.render size precision scale).toList = t.keyword.toList ++ '(' :: (settings ++ [')'])) := by
  have hparens (settings : String) (h : settings.toList.all isTypeChar = true) :
      ∃ s : List Char, s.all isTypeChar = true ∧
        ((t.keyword ++ "(" ++ settings ++ ")").toList = t.keyword.toList ∨
          (t.keyword ++ "(" ++ settings ++ ")").toList = t.keyword.toList ++ '(' :: (s ++ [')'])) :=
    ⟨settings.toList, h, .inr (by simp)⟩
  have hplain : ∃ s : List Char, s.all isTypeChar = true ∧ (t.keyword.toList = t.keyword.toList ∨
      t.keyword.toList = t.keyword.toList ++ '(' :: (s ++ [')'])) := ⟨[], rfl, .inl rfl⟩
  have hnumbers (p s : Nat) :
      (Text.numeral p ++ "," ++ Text.numeral s).toList.all isTypeChar = true := by
    rw [String.toList_append, String.toList_append, List.all_append, List.all_append,
      isTypeChar_numeral, isTypeChar_numeral]
    decide
  unfold ColumnType.render
  split
  · split
    · exact hparens _ (isTypeChar_numeral _)
    · have hmax : "(" ++ ("MAX" ++ ")") = "(MAX)" := by decide
      have h := hparens "MAX" (by decide)
      rwa [String.append_assoc, String.append_assoc, hmax] at h
    · exact hplain
  · split
    · split
      · rename_i p s
        have h := hparens _ (hnumbers p s)
        simpa only [String.append_assoc] using h
      · exact hparens _ (isTypeChar_numeral _)
      · exact hplain
    · exact hplain

namespace Column

variable (c : Column)

/-- No quote and no semicolon stands in a type. -/
theorem notMem_typeText {x : Char} (hx : x ∈ [';', '\n', '[', ']', '"']) : x ∉ c.typeText.toList := by
  have hwords : ([';', '\n', '[', ']', '"'].all fun x =>
      !isTypeChar x && x != '(' && x != ')') = true := by decide
  have hchar := List.all_eq_true.1 hwords x hx
  simp only [Bool.and_eq_true, Bool.not_eq_true', bne_iff_ne] at hchar
  have hall {s : List Char} (h : s.all isTypeChar = true) : x ∉ s := by
    intro hm
    rw [List.all_eq_true.1 h x hm] at hchar
    exact Bool.noConfusion hchar.1.1
  obtain ⟨settings, hsettings, h | h⟩ := render_eq c.type c.size c.precision c.scale
  · rw [typeText, h]
    exact hall (isTypeChar_keyword c.type)
  · rw [typeText, h]
    intro hm
    rcases List.mem_append.1 hm with hm | hm
    · exact hall (isTypeChar_keyword c.type) hm
    · rcases List.mem_cons.1 hm with hm | hm
      · exact hchar.1.2 hm
      · rcases List.mem_append.1 hm with hm | hm
        · exact hall hsettings hm
        · exact hchar.2 (List.mem_singleton.1 hm)

theorem balanced_typeText : Balanced c.typeText.toList := by
  have hall {s : List Char} (h : s.all isTypeChar = true) : Balanced s := by
    refine balanced_of_notMem (fun hm => ?_) fun hm => ?_
    · exact absurd (List.all_eq_true.1 h _ hm) (by decide)
    · exact absurd (List.all_eq_true.1 h _ hm) (by decide)
  obtain ⟨settings, hsettings, h | h⟩ := render_eq c.type c.size c.precision c.scale
  · rw [typeText, h]
    exact hall (isTypeChar_keyword c.type)
  · rw [typeText, h]
    exact balanced_append (hall (isTypeChar_keyword c.type)) (balanced_parens (hall hsettings))

end Column

/-! ## The definition of a staging table -/

namespace Table

variable (t : Table)

/-- The definition of a column of the staging table. -/
def stagedColumn (c : Column) : Statement :=
  [.name c.name, .word (" " ++ c.typeText ++ " NULL")]

/-- The definition of the column with the kinds of changes. -/
def tagColumn : Statement :=
  [.name opColumn, .word (" " ++ t.dialect.opColumnType ++ " NOT NULL")]

/-- The definitions of the columns of the staging table. -/
def stagedColumns : Statement :=
  joined ", " (t.columns.map stagedColumn ++ [t.tagColumn])

/-- The words with which the statement creates the staging table. -/
def createWords : String :=
  match t.dialect with
  | .sqlServer => "CREATE TABLE "
  | .postgres => "CREATE TEMP TABLE "

theorem chars_stagingCreate :
    t.stagingCreate.chars t.dialect = t.createWords.toList ++ (t.stagingText.toList ++
      (' ' :: '(' :: (t.stagedColumns.chars t.dialect ++ ')' :: []))) := by
  have hopen : " (".toList = [' ', '('] := by decide
  have hclose : ")".toList = [')'] := by decide
  rw [stagingCreate]
  simp only [List.cons_append, Statement.chars_word, Statement.chars_append,
    MemoryStore.chars_stagingName, Statement.chars_nil, hopen, hclose, List.append_nil]
  rfl

theorem names_stagedColumns : t.stagedColumns.names = t.stagingColumns := by
  rw [stagedColumns, Statement.names_joined, List.flatMap_append, List.flatMap_map, stagingColumns]
  congr 1
  exact List.map_eq_flatMap.symm

/-- The word behind a name of the definition, a blank and then no quote. -/
theorem tail_noQuote {d : Dialect} {n w : String} (h : d.openQuote ∉ w.toList)
    (hclose : d.closeQuote ≠ ' ') :
    Statement.Legible d [.name n, .word (" " ++ w)] := by
  have hblank : d.openQuote ∉ " ".toList := by cases d <;> decide
  refine ⟨?_, ?_, trivial⟩
  · rw [Statement.chars_word, String.toList_append]
    simpa using Ne.symm hclose
  · rw [String.toList_append]
    intro hm
    rcases List.mem_append.1 hm with hm | hm
    · exact hblank hm
    · exact h hm

theorem legible_stagedColumns : t.stagedColumns.Legible t.dialect := by
  have hblank : t.dialect.closeQuote ≠ ' ' := by cases t.dialect <;> decide
  refine Statement.legible_joined ?_ ?_ fun p hm => ?_
  · cases t.dialect <;> decide
  · cases t.dialect <;> decide
  · rcases List.mem_append.1 hm with hm | hm
    · obtain ⟨c, -, rfl⟩ := List.mem_map.1 hm
      have hquote : t.dialect.openQuote ∈ [';', '\n', '[', ']', '"'] := by
        cases t.dialect <;> decide
      have hword : t.dialect.openQuote ∉ (c.typeText ++ " NULL").toList := by
        rw [String.toList_append]
        intro hm
        rcases List.mem_append.1 hm with hm | hm
        · exact c.notMem_typeText hquote hm
        · revert hm
          cases t.dialect <;> decide
      have h := tail_noQuote (n := c.name) hword hblank
      rwa [← String.append_assoc] at h
    · rw [List.mem_singleton.1 hm, tagColumn]
      have hword : t.dialect.openQuote ∉ (t.dialect.opColumnType ++ " NOT NULL").toList := by
        cases t.dialect <;> decide
      have h := tail_noQuote (n := opColumn) hword hblank
      rwa [← String.append_assoc] at h

theorem balanced_stagedColumns (hp : t.Plain) : Balanced (t.stagedColumns.chars t.dialect) := by
  have hname {n : String} (h : isSimpleName n = true) : Balanced (t.dialect.quote n).toList :=
    balanced_of_notMem (notMem_quote t.dialect (s := []) (by decide) h)
      (notMem_quote t.dialect (s := []) (by decide) h)
  have hplain {s : List Char} (h : '(' ∉ s ∧ ')' ∉ s) : Balanced s := balanced_of_notMem h.1 h.2
  have hcomma : Balanced ", ".toList := hplain (by decide)
  rw [stagedColumns, Statement.chars_joined]
  refine balanced_intercalate hcomma fun p hm => ?_
  obtain ⟨statement, hstatement, rfl⟩ := List.mem_map.1 hm
  rcases List.mem_append.1 hstatement with hm | hm
  · obtain ⟨c, hc, rfl⟩ := List.mem_map.1 hm
    rw [stagedColumn, Statement.chars_name, Statement.chars_word, Statement.chars_nil,
      List.append_nil, String.toList_append, String.toList_append]
    exact balanced_append (hname (isSimpleName_of_isPlainName (hp.columns c hc)))
      (balanced_append (balanced_append (hplain (by decide)) c.balanced_typeText) (hplain (by decide)))
  · rw [List.mem_singleton.1 hm, tagColumn, Statement.chars_name, Statement.chars_word,
      Statement.chars_nil, List.append_nil]
    refine balanced_append (hname MemoryStore.isSimpleName_op) (hplain ?_)
    cases t.dialect <;> decide

theorem semicolon_notMem_stagedColumns (hp : t.Plain) : ';' ∉ t.stagedColumns.chars t.dialect := by
  refine notMem_chars (by decide) (lacks_joined (by decide) fun p hm => ?_)
  rcases List.mem_append.1 hm with hm | hm
  · obtain ⟨c, hc, rfl⟩ := List.mem_map.1 hm
    have hword : (Fragment.word (" " ++ c.typeText ++ " NULL")).lacks ';' = true := by
      simp [Fragment.lacks, c.notMem_typeText (x := ';') (by decide)]
    rw [stagedColumn, lacks_cons, lacks_cons, lacks_nil, hword,
      lacks_name (isSimpleName_of_isPlainName (hp.columns c hc)), Bool.and_self, Bool.and_self]
  · rw [List.mem_singleton.1 hm, tagColumn]
    cases t.dialect <;> decide

end Table

/-! ## Creating -/

namespace MemoryStore

variable {s : MemoryStore} {t : Table}

/-- Two quoted names are followed by what follows the quotes, and that is where these texts differ. -/
theorem after?_quoted {close : Char} {name other rest text : List Char} (hn : close ∉ name)
    (ho : close ∉ other) (h : Text.after? rest text = none) :
    Text.after? (name ++ close :: rest) (other ++ close :: text) = none := by
  induction name generalizing other with
  | nil =>
    cases other with
    | nil => simpa [Text.after?] using h
    | cons b other =>
      have hb : close ≠ b := fun hb => ho (hb ▸ List.mem_cons_self)
      exact Text.after?_cons_ne hb
  | cons a name ih =>
    have ha : a ≠ close := fun ha => hn (ha ▸ List.mem_cons_self)
    cases other with
    | nil => exact Text.after?_cons_ne ha
    | cons b other =>
      by_cases hab : a = b
      · have hrest := ih (fun hm => hn (List.mem_cons_of_mem _ hm))
          (fun hm => ho (List.mem_cons_of_mem _ hm))
        simpa [Text.after?, hab] using hrest
      · exact Text.after?_cons_ne hab

/-- The name of a staging table is not the name of the table, which has two parts. -/
theorem startsWith_stagingText (hp : t.Plain) (rest : List Char) :
    Text.startsWith (t.qualifiedName.toList ++ [' ']) (t.stagingText.toList ++ ' ' :: rest) = false := by
  have hschema := isSimpleName_of_isPlainName hp.schema
  have hstaging := isSimpleName_stagingName t.dialect hp.name
  -- The name of the table goes on with a dot, that of the staging table ends there.
  have hbehind : Text.after? ('.' :: ((t.dialect.quote t.name).toList ++ [' '])) (' ' :: rest) = none :=
    Text.after?_cons_ne (by decide)
  have hquoted := after?_quoted (closeQuote_notMem t.dialect hschema)
    (closeQuote_notMem t.dialect hstaging) hbehind
  have hopen (x y : List Char) : Text.after? (t.dialect.openQuote :: x) (t.dialect.openQuote :: y) =
      Text.after? x y := by simp [Text.after?]
  have hdot : ".".toList = ['.'] := by decide
  rw [Text.startsWith, Table.qualifiedName, Dialect.qualified, String.toList_append,
    String.toList_append, toList_quote t.dialect hschema, Table.stagingText, Dialect.stagingTable,
    toList_quote t.dialect hstaging, hdot]
  simp only [List.cons_append, List.append_assoc, List.nil_append] at hquoted ⊢
  rw [hopen, hquoted]
  rfl

theorem readCreate_staging (hp : t.Plain) :
    MemoryStatement.readCreate t.dialect t.qualifiedName.toList
        (t.stagingText.toList ++ (' ' :: '(' :: (t.stagedColumns.chars t.dialect ++ ')' :: []))) =
      .openStaging t.stagingText t.stagingColumns := by
  have hblank : " (".toList = [' ', '('] := by decide
  -- The name goes up to the parenthesis, and the names in it are the columns.
  have hcut := Text.cut?_clear (clear_stagingText hp (by decide : isSeparator " (".toList = true))
    (t.stagedColumns.chars t.dialect ++ ')' :: [])
  have hparen := parenthesized_balanced (t.balanced_stagedColumns hp) []
  have htrim : parenthesized (' ' :: '(' :: (t.stagedColumns.chars t.dialect ++ ')' :: [])) =
      parenthesized ('(' :: (t.stagedColumns.chars t.dialect ++ ')' :: [])) := rfl
  have hnames := namesIn_chars t.legible_stagedColumns
  rw [hblank, List.append_assoc] at hcut
  simp only [List.cons_append, List.nil_append] at hcut
  rw [t.names_stagedColumns] at hnames
  simp only [MemoryStatement.readCreate, startsWith_stagingText hp, Bool.false_eq_true, if_false,
    hblank, hcut, Option.map_some, Option.getD_some, List.drop_left, htrim, hparen, hnames,
    String.ofList_toList]

/-- The statement opens the staging table. -/
theorem read?_stagingCreate (hp : t.Plain) :
    MemoryStatement.read? t.dialect t.qualifiedName.toList (t.stagingCreate.chars t.dialect) =
      some (.openStaging t.stagingText t.stagingColumns) := by
  -- Without a semicolon the text is no script.
  have hsemicolon : ';' ∉ t.stagingCreate.chars t.dialect := by
    have hwords : ';' ∉ t.createWords.toList := by
      rw [Table.createWords]
      cases t.dialect <;> decide
    have hname : ';' ∉ t.stagingText.toList :=
      notMem_quote t.dialect (s := []) (by decide) (isSimpleName_stagingName t.dialect hp.name)
    have hcolumns := t.semicolon_notMem_stagedColumns hp
    simp [t.chars_stagingCreate, hwords, hname, hcolumns]
  have hscript : Text.contains ";\n".toList (t.stagingCreate.chars t.dialect) = false :=
    Text.contains_of_notMem (by decide) hsemicolon
  have hcreate := readCreate_staging hp
  rw [t.chars_stagingCreate] at hscript ⊢
  rw [Table.createWords] at hscript ⊢
  cases hd : t.dialect with
  | sqlServer =>
    rw [hd] at hcreate hscript
    have hwith (rest : List Char) :
        Text.startsWith "WITH ".toList ("CREATE TABLE ".toList ++ rest) = false := rfl
    simp only [MemoryStatement.read?, hscript, hwith, Bool.or_false, Bool.false_eq_true, if_false,
      Text.after?_append, Option.map_some, hcreate]
    rfl
  | postgres =>
    rw [hd] at hcreate hscript
    have hwith (rest : List Char) :
        Text.startsWith "WITH ".toList ("CREATE TEMP TABLE ".toList ++ rest) = false := rfl
    have hplain (rest : List Char) :
        Text.after? "CREATE TABLE ".toList ("CREATE TEMP TABLE ".toList ++ rest) = none := rfl
    simp only [MemoryStatement.read?, hscript, hwith, Bool.or_false, Bool.false_eq_true, if_false,
      hplain, Option.map_none, Text.after?_append, Option.map_some, hcreate]
    rfl

/-- Creating the staging table opens it, in the place of one of its name. -/
theorem run_stagingCreate (hp : t.Plain) (hs : s.Serves t) :
    (MemoryStore.run (t.textOf t.stagingCreate) []).run s =
      (.ok {}, s.openStaging t.stagingText ⟨t.stagingColumns, []⟩) := by
  have hread := read?_stagingCreate hp
  have htrim : Text.trim (t.stagingCreate.chars t.dialect) = t.stagingCreate.chars t.dialect := by
    refine Text.trim_of_solid ?_ ?_
    · rw [t.chars_stagingCreate]
      refine Text.beginsSolid_append ?_ _
      rw [Table.createWords]
      cases t.dialect <;> decide
    · rw [t.chars_stagingCreate]
      refine Text.endsSolid_append _ (Text.endsSolid_append _ ?_)
      rw [← List.cons_append, ← List.cons_append]
      exact Text.endsSolid_append _ (by decide)
  rw [hs.run_of_read? (by rw [Table.textOf, Statement.toList_text, htrim]) hread]
  rfl

/-! ## Loading -/

theorem lookup_openStaging (s : MemoryStore) (name : String) (table : StagingTable) :
    (s.openStaging name table).staging.lookup name = some table :=
  List.lookup_cons_self

/-- Opening a staging table again puts the new one in the place of the old one. -/
theorem openStaging_openStaging (s : MemoryStore) (name : String) (old new : StagingTable) :
    (s.openStaging name old).openStaging name new = s.openStaging name new := by
  simp [openStaging, List.filter_filter]

/-- Loading into an open staging table appends the rows. -/
theorem run_load (name : String) (columns : List String) (old new : List (List Value)) :
    (load name columns new).run (s.openStaging name ⟨columns, old⟩) =
      (.ok new.length, s.openStaging name ⟨columns, old ++ new⟩) := by
  have hopen := lookup_openStaging s name ⟨columns, old⟩
  rw [load, run_bind_ok (run_get _)]
  simp only [hopen, ne_eq, not_true_eq_false, if_false]
  rw [openStaging_openStaging]
  rfl

/-- Behind a load the staging table holds the changes of a batch. -/
theorem Stages.ofLoad (hs : s.Serves t) (changes : List (ItemChange (List Value))) :
    (s.openStaging t.stagingText ⟨t.stagingColumns, changes.map stagedRow⟩).Stages t changes :=
  ⟨⟨hs.dialect, hs.table⟩, lookup_openStaging s _ _⟩

end MemoryStore

end Tablewright
