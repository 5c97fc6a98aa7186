import Tablewright.Proofs.ChainSettings
import Tablewright.Proofs.ConflictTargets
import Tablewright.Proofs.KeyedTables
import Tablewright.Proofs.StatementNames

/-!
# Names of columns

The columns of a generated table have the names that the profile gives them: what the last accepted call
on the column of a property says, or else the name of the property. Nothing compares these names with
each other or with the tag of staged changes, so whether the statements that list columns list each of
them once is a matter of the names alone.

## Key results

- `Profile.namesColumn_iff`: the name of a property's column
- `Table.listsOnce_iff`, `Table.stagesOnce_iff`: when each column is listed once
- `SourceSet.columns_named`: both for each generated table
-/

namespace Tablewright

open Sql Statement

/-! ## The name of a column -/

/-- What calls lead to is computed from the accepted ones among them. -/
theorem Holds.eq_getLast? {α : Type} {symbols : SymbolTable} {d : Dialect}
    {write : Change → Option (Option α)} {calls : List ProfileCall} {value : Option α}
    (h : Holds symbols d write calls value) :
    value = ((calls.filterMap fun c => (c.change symbols d).toOption.bind write).getLast?).join := by
  have hnothing {calls : List ProfileCall}
      (hnone : ∀ c ∈ calls, ∀ ch, c.Sets symbols d ch → write ch = none) :
      (calls.filterMap fun c => (c.change symbols d).toOption.bind write) = [] := by
    refine List.filterMap_eq_nil_iff.2 fun c hc => ?_
    cases hchange : c.change symbols d with
    | error problems => rfl
    | ok ch => exact hnone c hc ch (ProfileCall.sets_of_change hchange)
  cases h with
  | @written before after c ch value hsets hwrites hlast =>
    have hc : (c.change symbols d).toOption.bind write = some value := by
      rw [ProfileCall.change_of_sets hsets]
      exact hwrites
    have hlist : (c :: after).filterMap (fun c => (c.change symbols d).toOption.bind write) = [value] := by
      rw [List.filterMap_cons, hc, hnothing hlast]
    -- Nothing behind that call writes, so what it writes is the last of all that is written.
    rw [List.filterMap_append, hlist, List.getLast?_concat, Option.join_some]
  | unwritten hnone =>
    rw [hnothing hnone]
    rfl

namespace Profile

variable (p : Profile) (m : Model) (symbols : SymbolTable)

/-- A profile names the column of a property: in the order of the names of its calls, the last accepted
one on the column says so, or there is none and the property has that name. -/
def NamesColumn (property name : String) : Prop :=
  ∃ ordered written, InNameOrder (p.presented m property) ordered ∧
    Holds symbols p.dialect Change.column? ordered written ∧ name = written.getD property

variable {p m symbols}

/-- A profile gives the column of a property just one name. -/
theorem namesColumn_iff {property name : String} : p.NamesColumn m symbols property name ↔
    ((p.settings m symbols).settingsOf property).column.getD property = name := by
  have hlast : Holds symbols p.dialect Change.column? (callsOn (p.rules m) property)
      ((p.settings m symbols).settingsOf property).column := by
    rw [p.settingsOf_settings m symbols]
    exact holds_settingsOfCalls Change.column_apply rfl _
  constructor
  · rintro ⟨ordered, written, hordered, hwritten, rfl⟩
    rw [hordered.unique (p.inNameOrder_callsOn m property)] at hwritten
    rw [hlast.eq_getLast?, ← hwritten.eq_getLast?]
  · rintro rfl
    exact ⟨_, _, p.inNameOrder_callsOn m property, hlast, rfl⟩

/-- The column of a resolved property has the name that the profile gives it. -/
theorem column_of_mem_resolve {meanings : List Meaning} {q : ResolvedProperty}
    (h : q ∈ (p.resolve m meanings symbols).properties) : p.NamesColumn m symbols q.name q.column := by
  obtain ⟨x, -, rfl⟩ := List.mem_map.1 h
  exact namesColumn_iff.2 rfl

end Profile

/-! ## Lists of columns -/

/-- The columns that the creation of a table defines, up to the constraint on its key. -/
def Sql.Statement.definedColumns (s : Statement) : List String :=
  names ((s.dropWhile (· != .word " (")).takeWhile (· != .word "CONSTRAINT "))

namespace Table

variable {t : Table}

/-- Each list of columns, in the definition of the table and in the texts of inserts, is without a column
that is there twice. The names of the schema and the table stand in front of the columns of an insert. -/
structure ListsOnce (t : Table) : Prop where
  create : t.create.definedColumns.Nodup
  insert : ((namesIn t.dialect t.texts.insert.toList).drop 2).Nodup
  insertBatch : ((namesIn t.dialect t.texts.insertBatch.toList).drop 2).Nodup

/-- So is the list of columns of the staging table, in the text that creates it and for its rows. -/
def StagesOnce (t : Table) : Prop :=
  ∃ x, t.stagingTexts = some x ∧ ((namesIn t.dialect x.create.toList).drop 1).Nodup ∧ x.columns.Nodup

theorem definedColumns_append {front list back : Statement} (hfront : Avoids (· == " (") front)
    (hlist : Avoids (· == "CONSTRAINT ") list) :
    definedColumns (front ++ .word " (" :: (list ++ back)) =
      list.names ++ names (back.takeWhile (· != .word "CONSTRAINT ")) := by
  rw [definedColumns, List.dropWhile_append_of_pos hfront.ne_word, List.dropWhile_cons_of_neg (by simp),
    List.takeWhile_cons_of_pos (by decide), List.takeWhile_append_of_pos hlist.ne_word]
  exact names_append list _

/-- The creation of a table defines its columns. -/
theorem definedColumns_create (t : Table) : t.create.definedColumns = columnNames t.columns := by
  have hfront : Avoids (· == " (") (.word "CREATE TABLE " :: t.target) := by
    simp (disch := decide) only [target, avoids_word, avoids_name, avoids_nil]
  have hcolumns : Avoids (· == "CONSTRAINT ") (joined ", " (t.columns.map t.columnDefinition)) :=
    avoids_definitions (by decide) (by decide)
  have hnames : (joined ", " (t.columns.map t.columnDefinition)).names = columnNames t.columns := by
    rw [names_joined, List.flatMap_map, columnNames, List.map_eq_flatMap]
    rfl
  -- Behind the columns there is the end of the definition, or the constraint on the key.
  have hback : ∃ back, t.create = .word "CREATE TABLE " :: t.target ++ .word " (" ::
      (joined ", " (t.columns.map t.columnDefinition) ++ back) ∧
        names (back.takeWhile (· != .word "CONSTRAINT ")) = [] := by
    by_cases hkey : t.keyColumns = []
    · exact ⟨[.word ")"], by simp [create, hkey], rfl⟩
    · exact ⟨.word ", " :: .word "CONSTRAINT " :: _, by rw [create_eq hkey, definitions]; simp; rfl, rfl⟩
  obtain ⟨back, hcreate, hback⟩ := hback
  rw [hcreate, definedColumns_append hfront hcolumns, hnames, hback, List.append_nil]

theorem listsOnce_iff : t.ListsOnce ↔ (columnNames t.columns).Nodup := by
  have hinsert : namesIn t.dialect t.texts.insert.toList = t.targetNames ++ columnNames t.insertColumns :=
    namesIn_row shows_insert
  have hbatch : namesIn t.dialect t.texts.insertBatch.toList =
      t.targetNames ++ columnNames t.insertColumns := namesIn_row shows_insertHead
  have hdrop (names : List String) : (t.targetNames ++ names).drop 2 = names := rfl
  constructor
  · rintro ⟨hcreate, -, -⟩
    rwa [definedColumns_create] at hcreate
  · intro h
    have hlist : (columnNames t.insertColumns).Nodup := h.sublist (List.filter_sublist.map _)
    exact ⟨by rwa [definedColumns_create], by rwa [hinsert, hdrop], by rwa [hbatch, hdrop]⟩

theorem stagesOnce_iff (hkey : t.keyColumns ≠ []) :
    t.StagesOnce ↔ (columnNames t.columns).Nodup ∧ opColumn ∉ columnNames t.columns := by
  have hcreate : namesIn t.dialect (t.textOf t.stagingCreate).toList =
      t.stagingName :: (columnNames t.columns ++ [opColumn]) := namesIn_staging shows_stagingCreate
  have htexts : t.StagesOnce ↔ t.stagingColumns.Nodup := by
    rw [StagesOnce, stagingTexts, if_neg (by simpa using hkey)]
    simp only [Option.some.injEq, exists_eq_left', hcreate, List.drop_one, List.tail_cons]
    exact and_self_iff
  -- The tag stands behind the columns.
  rw [htexts, stagingColumns, ← columnNames, ← List.concat_eq_append, List.nodup_concat, and_comm]

end Table

namespace SourceSet

variable {s : SourceSet} {policy : Policy} {m : DiscoveredModel} {meanings : List Meaning}
  {p : Profile} {t : Table}

/-- The columns of a table stand for the properties of its model, in order, under the names that the
profile gives them. -/
theorem Configures.columnsNamed (h : s.Configures policy m meanings p t) :
    List.Forall₂ (fun q c => c.property = q.name ∧ p.NamesColumn m.model s.symbols q.name c.name)
      m.model.properties t.columns := by
  refine h.columns.imp fun q c => ?_
  rintro ⟨meaning, settings, ⟨-, hmem⟩, hc⟩
  obtain ⟨type, -, rfl⟩ := Option.map_eq_some_iff.1 hc
  exact ⟨rfl, Profile.column_of_mem_resolve hmem⟩

/-- Every generated table has the columns of its model's properties under the names that the profile gives
them. Creating the table, inserting rows and staging changes list each column once exactly if these names
are distinct and, for staging, none of them is that of the tag. -/
theorem columns_named (s : SourceSet) (policy : Policy) (g : Generation)
    (h : s.generate policy = .ok g) : ∀ e ∈ g.models, ∀ d, e.dialect = some d →
      ∃ m meanings p t, s.Configures policy m meanings p t ∧ e = m.model.generatedTable t ∧
        t.dialect = d ∧
        List.Forall₂ (fun q c => c.property = q.name ∧
          ∀ name, p.NamesColumn m.model s.symbols q.name name ↔ c.name = name)
            m.model.properties t.columns ∧
        (t.ListsOnce ↔ (columnNames t.columns).Nodup) ∧
        (t.StagesOnce ↔ (columnNames t.columns).Nodup ∧ opColumn ∉ columnNames t.columns) := by
  intro e he d hd
  rcases (mem_models_iff h).1 he with ⟨m, -, -, -, rfl⟩ | ⟨m, meanings, p, t, hc, hopen, rfl⟩
  · cases hd
  · simp only [mem_diagnostics_iff h] at hopen
    refine ⟨m, meanings, p, t, hc, rfl, Option.some.inj hd, hc.columnsNamed.imp fun q c hqc => ?_,
      Table.listsOnce_iff, Table.stagesOnce_iff (hc.hasKey hopen).keyColumns_ne_nil⟩
    refine ⟨hqc.1, fun name => ?_⟩
    rw [Profile.namesColumn_iff, Profile.namesColumn_iff.1 hqc.2]

/-- The table of the goods lists each of its columns once. -/
theorem columns_named_goods : ∃ g, goods.generate .standard = .ok g ∧ ∃ e ∈ g.models,
    ∃ m meanings p t, goods.Configures .standard m meanings p t ∧ e = m.model.generatedTable t ∧
      t.dialect = .postgres ∧
      List.Forall₂ (fun q c => c.property = q.name ∧
        ∀ name, p.NamesColumn m.model goods.symbols q.name name ↔ c.name = name)
          m.model.properties t.columns ∧
      (t.ListsOnce ↔ (columnNames t.columns).Nodup) ∧
      (t.StagesOnce ↔ (columnNames t.columns).Nodup ∧ opColumn ∉ columnNames t.columns) := by
  obtain ⟨g, h, e, he, hd⟩ := exists_generate_goods
  exact ⟨g, h, e, he, columns_named goods .standard g h e he .postgres hd⟩

end SourceSet

/-! ## Columns that share a name -/

/-- Rooms of which the floor is given the column of the number, beside a property that is named like the
tag. -/
def rooms : SourceSet :=
  let floor : Source.Expr := .reference (.field (.path ["r"] default) "floor" default) default
  let rule : Source.Expr := .methodCall (.path ["b"] default) "rule_for"
    [.closure ["r"] floor default] default
  ⟨[.publicStruct "house" "Room" [("id", "i64"), ("floor", "i32"), ("number", "i32"), ("__op", "i32")]],
    [],
    [.traitImpl "house" "BulkModel" [] "Room" [],
      .traitImpl "house" "PostgresProfile" ["Room"] "Storage"
        [⟨[], .methodCall rule "column" [.literal (.text "number") default] default⟩]],
    ⟨[]⟩, []⟩

/-- There is no error about the rooms, and still their table defines a column twice, as does the staging
table, which has a column of its own for the tag besides. -/
theorem columns_shared_rooms :
    ∃ g, rooms.generate .standard = .ok g ∧ g.hasErrors = false ∧ ∃ e ∈ g.models, e.capability = .bulk ∧
      ∃ t : Table, e.texts = some t.texts ∧
        t.create.definedColumns = ["id", "number", "number", "__op"] ∧
        t.stagingColumns = ["id", "number", "number", "__op", "__op"] ∧ ¬t.ListsOnce ∧ ¬t.StagesOnce := by
  have hnames : (emittedNames (rooms.units .standard)).all Code.isName = true := by decide +kernel
  have herrors : ∀ d ∈ rooms.diagnosed .standard, d.isError = false := by decide +kernel
  have hunits : ∃ u ∈ rooms.units .standard, u.model.capability = .bulk ∧ ∃ t ∈ u.tables,
      columnNames t.columns = ["id", "number", "number", "__op"] ∧ t.keyColumns ≠ [] := by
    decide +kernel
  obtain ⟨g, h⟩ := SourceSet.exists_generate_iff.2 (List.all_eq_true.1 hnames)
  obtain ⟨u, hu, hbulk, t, ht, hcolumns, hkey⟩ := hunits
  have htable : u.model.capability.hasTable = true := by
    rw [hbulk]
    rfl
  refine ⟨g, h, ?_, u.model.generatedTable t, SourceSet.generatedTable_mem_models h hu htable ht, hbulk,
    t, rfl, ?_, ?_, ?_, ?_⟩
  · rw [Generation.hasErrors, List.any_eq_false]
    exact fun d hd => by simp [herrors d ((SourceSet.mem_diagnostics_iff h).1 hd)]
  · rw [Table.definedColumns_create, hcolumns]
  · rw [Table.stagingColumns, ← columnNames, hcolumns]
    rfl
  · rw [Table.listsOnce_iff, hcolumns]
    decide
  · rw [Table.stagesOnce_iff hkey, hcolumns]
    decide

end Tablewright
