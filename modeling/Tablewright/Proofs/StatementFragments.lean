import Tablewright.Proofs.ReadableStatements
import Tablewright.Proofs.RowStatements

/-!
# What the statements on rows show

Each statement on the rows of a table is readable, whatever the names of the table are, and it shows
the names and the parameters that are said here; the lists of columns of which the statements are made
come first.

## Key results

- `shows_insert`, `shows_rowUpdate`, `shows_rowDelete`: the statements that change rows by their
  parameters
- `shows_mergeUpsert`, `shows_conflictUpsert`: both forms of an upsert
- `shows_select`, `shows_rowQuery`: the statements that read rows
-/

namespace Tablewright

open Sql Statement

/-! ## Lists of columns -/

/-- The names of columns. -/
def columnNames (columns : List Column) : List String :=
  columns.map (·.name)

/-- The names of columns, each of them twice. -/
def columnNamesTwice (columns : List Column) : List String :=
  columns.flatMap fun c => [c.name, c.name]

/-- The names of the columns' parameters and their positions in a statement, from `start` on. -/
def columnSlots (columns : List Column) (start : Nat) : List (String × Nat) :=
  columns.zipIdx.map fun (c, i) => (c.parameterName, start + i)

namespace Table

variable {t : Table} {d : Dialect} {columns : List Column} {start : Nat}

/-- The names of the schema and the table. -/
def targetNames (t : Table) : List String :=
  [t.schema, t.name]

theorem shows_target : Shows d rowChars t.target t.targetNames [] :=
  (shows_name t.schema).followed (by decide) (shows_name t.name)

theorem shows_columnList : Shows d rowChars (columnList columns) (columnNames columns) [] :=
  shows_joined_names (by decide) fun c _ => shows_name c.name

theorem shows_columnListOf {source : String} (hsource : lacksAll rowChars (source ++ ".") = true) :
    Shows d rowChars (columnListOf source columns) (columnNames columns) [] :=
  shows_joined_names (by decide) fun c _ => (shows_name c.name).phrase hsource

/-- Columns of which each stands in front of a word and again behind it. -/
theorem shows_twice {between : String} (hbetween : isBoundary rowChars between = true)
    {part : Column → Statement} (h : ∀ c, Shows d rowChars (part c) [c.name, c.name] []) :
    Shows d rowChars (joined between (columns.map part)) (columnNamesTwice columns) [] := by
  have hs := shows_joined hbetween fun c (_ : c ∈ columns) => h c
  rwa [List.flatMap_eq_nil_iff.2 fun _ _ => rfl] at hs

theorem shows_keyMatch {left right : String} (hleft : lacksAll rowChars (left ++ ".") = true)
    (hright : isBoundary rowChars (" = " ++ right ++ ".") = true) :
    Shows d rowChars (keyMatch left right columns) (columnNamesTwice columns) [] :=
  shows_twice (by decide) fun c =>
    ((shows_name c.name).followed hright (shows_name c.name)).phrase hleft

theorem shows_binding (c : Column) (position : Nat) :
    Shows d rowChars [.name c.name, .word " = ", .parameter c.parameterName position] [c.name]
      [(c.parameterName, position)] :=
  (shows_name c.name).followed (by decide)
    (shows_parameter (isPlainName_parameterName c) position)

theorem names_zipIdx (columns : List Column) :
    (columns.zipIdx.flatMap fun p => [p.1.name]) = columnNames columns := by
  rw [← List.map_eq_flatMap, columnNames]
  conv => rhs; rw [← List.zipIdx_map_fst 0 columns]
  rw [List.map_map]
  rfl

theorem shows_bindings {between : String} (hbetween : isBoundary rowChars between = true) :
    Shows d rowChars (joined between (bindings columns start)) (columnNames columns)
      (columnSlots columns start) := by
  have h := shows_joined hbetween fun (p : Column × Nat) (_ : p ∈ columns.zipIdx) =>
    shows_binding (d := d) p.1 (start + p.2)
  rwa [names_zipIdx, ← List.map_eq_flatMap] at h

theorem shows_keyFilter (start : Nat) :
    Shows d rowChars (t.keyFilter start) (columnNames t.keyColumns) (columnSlots t.keyColumns start) :=
  shows_bindings (by decide)

/-! ## Changing rows -/

theorem shows_insertHead :
    Shows d rowChars t.insertHead (t.targetNames ++ columnNames t.insertColumns) [] :=
  ((shows_target.phrase (by decide)).followed (by decide) shows_columnList).ended (by decide)

theorem shows_insert :
    Shows d rowChars t.insert (t.targetNames ++ columnNames t.insertColumns)
      (columnSlots t.insertColumns 1) := by
  have hvalues : Shows d rowChars (joined ", " (t.insertColumns.zipIdx.map fun p =>
      [.parameter p.1.parameterName (p.2 + 1)])) _ _ :=
    shows_joined (by decide) fun p _ => shows_parameter (isPlainName_parameterName p.1) (p.2 + 1)
  have hslots : t.insertColumns.zipIdx.flatMap (fun p => [(p.1.parameterName, p.2 + 1)]) =
      columnSlots t.insertColumns 1 := by
    rw [← List.map_eq_flatMap, columnSlots]
    simp only [Nat.add_comm 1]
  rw [hslots, List.flatMap_eq_nil_iff.2 fun _ _ => rfl] at hvalues
  have h := ((shows_insertHead (t := t)).followed (w := "(") (by decide) hvalues).ended (w := ")")
    (by decide)
  rwa [List.append_nil] at h

theorem shows_rowUpdate :
    Shows d rowChars t.rowUpdate
      (t.targetNames ++ columnNames t.updateColumns ++ columnNames t.keyColumns)
      (columnSlots t.updateColumns 1 ++ columnSlots t.keyColumns (t.updateColumns.length + 1)) :=
  ((shows_target.phrase (by decide)).followed (by decide) (shows_bindings (by decide))).followed
    (by decide) (shows_keyFilter _)

theorem shows_rowDelete :
    Shows d rowChars t.rowDelete (t.targetNames ++ columnNames t.keyColumns)
      (columnSlots t.keyColumns 1) :=
  (shows_target.phrase (by decide)).followed (by decide) (shows_keyFilter 1)

/-- The beginning of a deletion of many rows by their only key column. -/
def deleteHead (t : Table) (key : Column) : Statement :=
  .word "DELETE FROM " :: t.target ++ [.word " WHERE ", .name key.name, .word " IN "]

theorem shows_deleteHead (key : Column) :
    Shows d rowChars (t.deleteHead key) (t.targetNames ++ [key.name]) [] :=
  (shows_target.phrase (by decide)).followed (by decide) ((shows_name key.name).ended (by decide))

theorem shows_truncate : Shows d rowChars t.truncate t.targetNames [] :=
  shows_target.phrase (by decide)

/-! ## Inserting or updating a row -/

/-- The names of the columns' parameters; a merge binds by name alone and gives them no positions. -/
def mergeSlots (columns : List Column) : List (String × Nat) :=
  columns.map fun c => (c.parameterName, 0)

/-- The beginning of a merge: the given row beside the table, and the key by which they are matched. -/
def mergeSource (t : Table) (keys : List Column) : Statement :=
  .word "MERGE INTO " :: t.target ++
    .word " WITH (HOLDLOCK) AS target USING (VALUES (" ::
      joined ", " (t.insertColumns.map fun c => [.parameter c.parameterName 0]) ++
    .word ")) AS source (" :: columnList t.insertColumns ++ .word ") ON " ::
      keyMatch "target" "source" keys

/-- What a merge does with a row that has the key; nothing without update columns. -/
def matchedClause (t : Table) : Statement :=
  match t.updateColumns with
  | [] => []
  | updates => .word " WHEN MATCHED THEN UPDATE SET " ::
      joined ", " (updates.map fun c =>
        [.word "target.", .name c.name, .word " = source.", .name c.name])

/-- What an insert does with a row that has the key. -/
def conflictAction (t : Table) : Statement :=
  match t.updateColumns with
  | [] => [.word "DO NOTHING"]
  | updates => .word "DO UPDATE SET " ::
      joined ", " (updates.map fun c => [.name c.name, .word " = EXCLUDED.", .name c.name])

theorem mergeUpsert_eq (t : Table) (keys : List Column) :
    t.mergeUpsert keys = t.mergeSource keys ++ t.matchedClause ++
      .word " WHEN NOT MATCHED THEN INSERT (" :: columnList t.insertColumns ++
      .word ") VALUES (" :: columnListOf "source" t.insertColumns ++ [.word ");"] := rfl

theorem conflictUpsert_eq (t : Table) (keys : List Column) :
    t.conflictUpsert keys =
      t.insert ++ .word " ON CONFLICT (" :: columnList keys ++ .word ") " :: t.conflictAction := rfl

theorem shows_mergeSource (keys : List Column) :
    Shows d rowChars (t.mergeSource keys)
      (t.targetNames ++ columnNames t.insertColumns ++ columnNamesTwice keys)
      (mergeSlots t.insertColumns) := by
  have hvalues : Shows d rowChars (joined ", " (t.insertColumns.map fun c =>
      [.parameter c.parameterName 0])) [] (mergeSlots t.insertColumns) := by
    have h : Shows d rowChars (joined ", " (t.insertColumns.map fun c =>
        [.parameter c.parameterName 0])) _ _ :=
      shows_joined (by decide) fun c _ => shows_parameter (isPlainName_parameterName c) 0
    rwa [List.flatMap_eq_nil_iff.2 fun _ _ => rfl, ← List.map_eq_flatMap] at h
  have h : Shows d rowChars (t.mergeSource keys) _ _ :=
    (((shows_target.phrase (by decide)).followed (by decide) hvalues).followed (by decide)
      shows_columnList).followed (by decide) (shows_keyMatch (by decide) (by decide))
  rw [List.append_nil, List.append_nil, List.append_nil] at h
  exact h

theorem shows_matchedClause {s : Statement} {names : List String} {slots : List (String × Nat)}
    (hs : Shows d rowChars s names slots) :
    Shows d rowChars (s ++ t.matchedClause) (names ++ columnNamesTwice t.updateColumns) slots := by
  rw [matchedClause]
  cases t.updateColumns with
  | nil => rwa [List.append_nil, columnNamesTwice, List.flatMap_nil, List.append_nil]
  | cons c cs =>
    have hsettings : Shows d rowChars (joined ", " ((c :: cs).map fun c =>
        [.word "target.", .name c.name, .word " = source.", .name c.name])) _ _ :=
      shows_twice (by decide) fun c =>
        ((shows_name c.name).followed (by decide) (shows_name c.name)).phrase (by decide)
    have h := hs.followed (w := " WHEN MATCHED THEN UPDATE SET ") (by decide) hsettings
    rwa [List.append_nil] at h

theorem shows_conflictAction :
    Shows d rowChars t.conflictAction (columnNamesTwice t.updateColumns) [] := by
  rw [conflictAction]
  cases t.updateColumns with
  | nil => exact shows_nil.phrase (by decide)
  | cons c cs =>
    exact (shows_twice (by decide) fun c =>
      (shows_name c.name).followed (by decide) (shows_name c.name)).phrase (by decide)

theorem shows_mergeUpsert (keys : List Column) :
    Shows d rowChars (t.mergeUpsert keys)
      (t.targetNames ++ columnNames t.insertColumns ++ columnNamesTwice keys ++
        columnNamesTwice t.updateColumns ++ columnNames t.insertColumns ++ columnNames t.insertColumns)
      (mergeSlots t.insertColumns) := by
  have h : Shows d rowChars (t.mergeUpsert keys) _ _ :=
    (((shows_matchedClause (shows_mergeSource keys)).followed (by decide)
      shows_columnList).followed (by decide) (shows_columnListOf (by decide))).ended (by decide)
  rw [List.append_nil, List.append_nil] at h
  exact h

theorem shows_conflictUpsert (keys : List Column) :
    Shows d rowChars (t.conflictUpsert keys)
      (t.targetNames ++ columnNames t.insertColumns ++ columnNames keys ++
        columnNamesTwice t.updateColumns)
      (columnSlots t.insertColumns 1) := by
  have h : Shows d rowChars (t.conflictUpsert keys) _ _ :=
    (shows_insert.followed (by decide) shows_columnList).followed (by decide) shows_conflictAction
  rw [List.append_nil, List.append_nil] at h
  exact h

/-! ## Reading rows -/

/-- The names by which a query reads a column: that of the column and, if it is not the same, that of
its property. -/
def queryNames (c : Column) : List String :=
  if Text.eqIgnoreAsciiCase c.name c.property then [c.name] else [c.name, c.property]

/-- A column in a query, under the name of its property. -/
def queryColumn (c : Column) : Statement :=
  if Text.eqIgnoreAsciiCase c.name c.property then [.name c.name]
  else [.name c.name, .word " AS ", .name c.property]

theorem shows_queryColumn (c : Column) : Shows d rowChars (queryColumn c) (queryNames c) [] := by
  rw [queryColumn, queryNames]
  split
  · exact shows_name c.name
  · exact (shows_name c.name).followed (by decide) (shows_name c.property)

/-- The query for the row with a key. -/
def rowQuery (t : Table) : Statement :=
  t.select ++ .word " WHERE " :: t.keyFilter 1

theorem select_eq (t : Table) :
    t.select = .word "SELECT " :: joined ", " (t.columns.map queryColumn) ++
      .word " FROM " :: t.target := rfl

theorem shows_select :
    Shows d rowChars t.select (t.columns.flatMap queryNames ++ t.targetNames) [] := by
  have hlist : Shows d rowChars (joined ", " (t.columns.map queryColumn))
      (t.columns.flatMap queryNames) [] := by
    have h : Shows d rowChars (joined ", " (t.columns.map queryColumn)) _ _ :=
      shows_joined (by decide) fun c _ => shows_queryColumn c
    rwa [List.flatMap_eq_nil_iff.2 fun _ _ => rfl] at h
  exact (hlist.phrase (by decide)).followed (by decide) shows_target

theorem shows_rowQuery :
    Shows d rowChars t.rowQuery
      (t.columns.flatMap queryNames ++ t.targetNames ++ columnNames t.keyColumns)
      (columnSlots t.keyColumns 1) :=
  shows_select.followed (by decide) (shows_keyFilter 1)

end Table

end Tablewright
