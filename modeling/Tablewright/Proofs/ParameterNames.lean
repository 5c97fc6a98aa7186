import Mathlib.Data.List.Forall2
import Tablewright.Proofs.StatementPlaceholders

/-!
# Names of parameters

A parameter has the name of its column with an underscore in the place of every character but ASCII
letters and digits. Columns whose names differ in other characters only share a parameter; where no two
of its columns do, a statement binds each of them under a name of its own.

## Key results

- `parameterNameOf_eq_iff`: which names of columns are the same as names of parameters
- `distinct_parameters_iff`: which statements bind each column under a name of its own
- `shared_parameter`: two columns of a table that share a parameter
-/

namespace Tablewright

open Sql

namespace Column

/-! ## Names that are alike -/

/-- Two characters are the same, or neither of them is an ASCII letter or digit. -/
def AlikeChar (c c' : Char) : Prop :=
  c = c' ∨ (c.isAlphanum = false ∧ c'.isAlphanum = false)

/-- Two names are the same but for characters that are no ASCII letters and digits. -/
def Alike (name name' : String) : Prop :=
  List.Forall₂ AlikeChar name.toList name'.toList

/-- The character that stands in the name of a parameter for one of a column. -/
def parameterChar (c : Char) : Char :=
  if Text.isAsciiWord c then c else '_'

theorem parameterChar_of_isAlphanum {c : Char} (h : c.isAlphanum = true) : parameterChar c = c := by
  rw [parameterChar, Text.isAsciiWord, h, Bool.true_or, if_pos rfl]

theorem parameterChar_of_not_isAlphanum {c : Char} (h : c.isAlphanum = false) :
    parameterChar c = '_' := by
  rw [parameterChar, Text.isAsciiWord, h, Bool.false_or]
  split
  · rename_i hc
    exact beq_iff_eq.1 hc
  · rfl

/-- No letter and no digit comes from another character. -/
theorem isAlphanum_parameterChar (c : Char) : (parameterChar c).isAlphanum = c.isAlphanum := by
  cases h : c.isAlphanum with
  | true => rw [parameterChar_of_isAlphanum h, h]
  | false =>
    rw [parameterChar_of_not_isAlphanum h]
    decide

theorem parameterChar_eq_iff (c c' : Char) :
    parameterChar c = parameterChar c' ↔ AlikeChar c c' := by
  constructor
  · intro heq
    have hboth : c.isAlphanum = c'.isAlphanum := by
      rw [← isAlphanum_parameterChar c, heq, isAlphanum_parameterChar]
    cases h : c.isAlphanum with
    | true =>
      rw [parameterChar_of_isAlphanum h, parameterChar_of_isAlphanum (hboth.symm.trans h)] at heq
      exact .inl heq
    | false => exact .inr ⟨h, hboth.symm.trans h⟩
  · rintro (rfl | ⟨h, h'⟩)
    · rfl
    · rw [parameterChar_of_not_isAlphanum h, parameterChar_of_not_isAlphanum h']

/-- Names of columns are the same as names of parameters if they are alike, and only then. -/
theorem parameterNameOf_eq_iff (name name' : String) :
    parameterNameOf name = parameterNameOf name' ↔ Alike name name' := by
  have hchars (s : String) : (parameterNameOf s).toList = s.toList.map parameterChar :=
    String.toList_ofList
  rw [← String.toList_inj, hchars, hchars, ← List.forall₂_eq_eq_eq, List.forall₂_map_left_iff,
    List.forall₂_map_right_iff, Alike]
  simp only [parameterChar_eq_iff]

/-- A plain name is the name of its parameter. -/
theorem parameterNameOf_plain {name : String} (h : isPlainName name = true) :
    parameterNameOf name = name := by
  have hchars : name.toList.map parameterChar = name.toList.map id :=
    List.map_congr_left fun c hc => if_pos (List.all_eq_true.1 h c hc)
  rw [parameterNameOf]
  show String.ofList (name.toList.map parameterChar) = name
  rw [hchars, List.map_id, String.ofList_toList]

end Column

namespace Table

variable {Item : Type} {t : Table}

/-! ## Columns of an operation -/

theorem mem_columns_of_mem_columnsOf {op : RowOperation Item} {c : Column} (hc : c ∈ t.columnsOf op) :
    c ∈ t.columns := by
  cases op with
  | insert | upsert => exact (mem_insertColumns.1 hc).1
  | update =>
    rcases List.mem_append.1 hc with hc | hc
    · exact (mem_updateColumns.1 hc).1
    · exact mem_columns_of_mem_keyColumns hc
  | delete | find => exact mem_columns_of_mem_keyColumns hc
  | truncate | all => exact absurd hc List.not_mem_nil

/-- Different keys are different columns. -/
theorem nodup_keyColumns (hkeys : t.keys.Nodup) : t.keyColumns.Nodup := by
  refine hkeys.filterMap fun k k' c hc hc' => ?_
  have hproperty {k : String} (h : c ∈ t.column? k) : c.property = k := by
    simpa using List.find?_some h
  rw [← hproperty hc, ← hproperty hc']

/-- No operation binds a column twice. -/
theorem nodup_columnsOf (hproperties : (t.columns.map (·.property)).Nodup) (hkeys : t.keys.Nodup)
    (op : RowOperation Item) : (t.columnsOf op).Nodup := by
  have hcolumns : t.columns.Nodup := hproperties.of_map _
  have hkeyColumns := nodup_keyColumns hkeys
  cases op with
  | insert | upsert => exact hcolumns.filter _
  | update =>
    refine List.nodup_append.2 ⟨hcolumns.filter _, hkeyColumns, ?_⟩
    -- A column of the key is not updated.
    rintro c hc _ hkey rfl
    have hupdated := (mem_updateColumns.1 hc).2
    rw [isUpdated, isKey_of_mem_keyColumns hkey] at hupdated
    exact Bool.false_ne_true hupdated
  | delete | find => exact hkeyColumns
  | truncate | all => exact List.nodup_nil

/-- A statement on one row binds each of its columns under a name of its own exactly if no two of them
have names that are alike; names that are plain are not. The placeholders of the statement are those
names where the dialect binds by name. -/
theorem distinct_parameters_iff (values : Item → List Value) (op : RowOperation Item)
    (hproperties : (t.columns.map (·.property)).Nodup) (hkeys : t.keys.Nodup)
    (hnames : (t.columns.map (·.name)).Nodup) (hkeyed : t.Keyed op) :
    (((t.parametersOf values op).map (·.name)).Nodup ↔
      ∀ c ∈ t.columnsOf op, ∀ c' ∈ t.columnsOf op, Column.Alike c.name c'.name → c = c') ∧
    ((∀ c ∈ t.columns, isPlainName c.name = true) →
      ((t.parametersOf values op).map (·.name)).Nodup) ∧
    (t.dialect = .sqlServer → ∀ sql ∈ statementOf t.texts op,
      placeholdersIn .sqlServer sql = (t.parametersOf values op).map fun p => "@" ++ p.name) := by
  have hdistinct : ((t.parametersOf values op).map (·.name)).Nodup ↔
      ∀ c ∈ t.columnsOf op, ∀ c' ∈ t.columnsOf op, Column.Alike c.name c'.name → c = c' := by
    rw [names_parametersOf hkeyed, List.nodup_map_iff_inj_on (nodup_columnsOf hproperties hkeys op)]
    refine forall₂_congr fun c _ => forall₂_congr fun c' _ => ?_
    rw [Column.parameterName, Column.parameterName, Column.parameterNameOf_eq_iff]
  refine ⟨hdistinct, fun hplain => hdistinct.2 fun c hc c' hc' halike => ?_, fun hd sql h => ?_⟩
  · have hm := mem_columns_of_mem_columnsOf hc
    have hm' := mem_columns_of_mem_columnsOf hc'
    rw [← Column.parameterNameOf_eq_iff, Column.parameterNameOf_plain (hplain c hm),
      Column.parameterNameOf_plain (hplain c' hm')] at halike
    exact eq_of_name_eq hnames hm hm' halike
  · have hplaceholders := placeholdersIn_statementOf op h
    have hcolumns : (t.parametersOf values op).map (·.name) = (t.columnsOf op).map (·.parameterName) :=
      names_parametersOf hkeyed
    rw [hd, placeholdersOf_sqlServer, ← hcolumns, List.map_map] at hplaceholders
    exact hplaceholders

/-- The goods in stock are inserted, updated and deleted under names of their own. -/
theorem distinct_parameters_stock :
    ((Table.stock .sqlServer).Keyed (.insert [] : RowOperation (List Value)) ∧
      ((Table.stock .sqlServer).columns.map (·.property)).Nodup) ∧
    (((Table.stock .sqlServer).parametersOf id (.insert [])).map (·.name)).Nodup ∧
    (((Table.stock .sqlServer).parametersOf id (.update [])).map (·.name)).Nodup := by
  have hproperties : ((Table.stock .sqlServer).columns.map (·.property)).Nodup := by decide
  have hplain : ∀ c ∈ (Table.stock .sqlServer).columns, isPlainName c.name = true := by decide
  obtain ⟨-, hinsert, -⟩ := distinct_parameters_iff id (.insert []) hproperties (by decide) (by decide)
    trivial
  obtain ⟨-, hupdate, -⟩ := distinct_parameters_iff id (.update []) hproperties (by decide) (by decide)
    trivial
  exact ⟨⟨trivial, hproperties⟩, hinsert hplain, hupdate hplain⟩

/-! ## Columns that share a parameter -/

/-- Orders with two columns whose names differ in a blank and an underscore. -/
def orderDates : Table where
  dialect := .sqlServer
  schema := "dbo"
  name := "Orders"
  columns :=
    [.ofProperty "id" (.sqlServer .int),
      { Column.ofProperty "placed" (.sqlServer .date) with name := "Order Date" },
      { Column.ofProperty "changed" (.sqlServer .date) with name := "Order_Date" }]
  keys := ["id"]
  identity := []

/-- Both columns are bound under one name: a statement that binds by name cannot tell their values
apart. -/
theorem shared_parameter :
    (orderDates.columns.map (·.property)).Nodup ∧ orderDates.keys.Nodup ∧
    (orderDates.columns.map (·.name)).Nodup ∧
    (∀ c ∈ orderDates.columns, (Text.trim c.name.toList).isEmpty = false) ∧
    (∀ item : List Value,
      ¬((orderDates.plainEntity.insertParameters item).map (·.name)).Nodup ∧
      ¬((orderDates.plainEntity.updateParameters item).map (·.name)).Nodup) ∧
    ∃ sql ∈ orderDates.texts.upsert,
      placeholdersIn .sqlServer sql = ["@id", "@Order_Date", "@Order_Date"] := by
  refine ⟨by decide, by decide, by decide, by decide, fun item => ⟨?_, ?_⟩, ?_⟩
  · have hnames : (orderDates.parametersOf id (.insert item)).map (·.name) =
        orderDates.insertColumns.map (·.parameterName) := names_parametersOf trivial
    show ¬((orderDates.parametersOf id (.insert item)).map (·.name)).Nodup
    rw [hnames]
    decide
  · have hnames : (orderDates.parametersOf id (.update item)).map (·.name) =
        (orderDates.updateColumns ++ orderDates.keyColumns).map (·.parameterName) :=
      names_parametersOf trivial
    show ¬((orderDates.parametersOf id (.update item)).map (·.name)).Nodup
    rw [hnames]
    decide
  · have hupsert : (orderDates.texts.upsert).isSome = true := by decide +kernel
    obtain ⟨sql, hsql⟩ := Option.isSome_iff_exists.1 hupsert
    refine ⟨sql, hsql, (placeholdersIn_upsert hsql).trans ?_⟩
    decide

end Table

end Tablewright
