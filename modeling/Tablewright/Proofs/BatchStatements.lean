import Tablewright.Proofs.EntityStatements
import Tablewright.Proofs.StatementPlaceholders

/-!
# Statements for many items as steps

A statement for many items does to the table in memory what a step for each of them does, one after the
other. So does a statement for one item, which is a single step. This needs no more of the store than
that it understands the dialect and knows its table by name: its columns and rows may be any.

## Key results

- `stepEach_append`: steps for two lists of items are steps for the first one and then for the second
- `steps_insert`, `steps_insertCommand`: inserts of one item and of many take the same steps
- `steps_delete`, `steps_deleteCommand`: and so do deletions
-/

namespace Tablewright

open Sql

variable {α : Type}

namespace MemoryTable

/-! ## Steps one after the other -/

/-- What a step for each item makes of a table, one after the other, and the number of rows that the
steps change together. -/
def stepEach (step : α → MemoryTable → Nat × MemoryTable) (m : MemoryTable) :
    List α → Nat × MemoryTable
  | [] => (0, m)
  | x :: rest =>
    let first := step x m
    let others := stepEach step first.2 rest
    (first.1 + others.1, others.2)

variable {step : α → MemoryTable → Nat × MemoryTable}

/-- Steps for two lists of items are steps for the first one and then for the second. -/
theorem stepEach_append (m : MemoryTable) (xs ys : List α) :
    m.stepEach step (xs ++ ys) =
      ((m.stepEach step xs).1 + ((m.stepEach step xs).2.stepEach step ys).1,
        ((m.stepEach step xs).2.stepEach step ys).2) := by
  induction xs generalizing m with
  | nil => simp [stepEach]
  | cons x xs ih => simp [stepEach, ih, Nat.add_assoc]

theorem name_stepEach (h : ∀ x m, (step x m).2.name = m.name) (m : MemoryTable) (xs : List α) :
    (m.stepEach step xs).2.name = m.name := by
  induction xs generalizing m with
  | nil => rfl
  | cons x xs ih => exact (ih (step x m).2).trans (h x m)

/-- An insert of many rows inserts one after the other. -/
theorem stepEach_insert (names : List String) (row : α → List Value) (m : MemoryTable)
    (xs : List α) :
    m.stepEach (fun x m => (1, m.insert names (row x))) xs =
      (xs.length, m.insertRows names (xs.map row)) := by
  induction xs generalizing m with
  | nil => rfl
  | cons x xs ih =>
    rw [stepEach, ih, List.length_cons, Nat.add_comm]
    rfl

/-- A deletion of many values deletes one after the other, so that a value given twice counts its rows
once. -/
theorem stepEach_delete (key : List String) (value : α → Value) (m : MemoryTable) (xs : List α) :
    m.stepEach (fun x m => m.delete key [value x]) xs = m.deleteEach key (xs.map value) := by
  induction xs generalizing m with
  | nil => rfl
  | cons x xs ih => rw [stepEach, ih, List.map_cons, deleteEach]

theorem name_insert (m : MemoryTable) (names : List String) (values : List Value) :
    (m.insert names values).name = m.name := by
  rw [insert, newRow]
  cases m.identityPosition? with
  | none => rfl
  | some i =>
    show (if _ then (_, m) else _ : List Value × MemoryTable).2.name = m.name
    split <;> rfl

end MemoryTable

/-- A statement without a limit of time does to the store of a table what the steps for items do to the
table. -/
structure Command.Steps (t : Table) (step : α → MemoryTable → Nat × MemoryTable) (xs : List α)
    (command : Command) : Prop where
  timeout : command.timeout = none
  run : ∀ s : MemoryStore, s.Answers t →
    (MemoryStore.run command.sql (command.parameters.map (·.value))).run s =
      (.ok { affected := (s.table.stepEach step xs).1 },
        { s with table := (s.table.stepEach step xs).2 })

namespace Table

/-! ## The steps of a table's operations -/

variable {Item : Type} (t : Table) (values : Item → List Value)

/-- The insert of an item. -/
def insertStep (item : Item) (m : MemoryTable) : Nat × MemoryTable :=
  (1, m.insert (t.insertColumns.map (·.name)) (t.insertColumns.map (t.valueOf (values item))))

/-- The deletion of the rows with the key of an item. -/
def deleteStep (item : Item) (m : MemoryTable) : Nat × MemoryTable :=
  m.delete (t.keyColumns.map (·.name)) (t.keyColumns.map (t.valueOf (values item)))

theorem name_insertStep (item : Item) (m : MemoryTable) :
    (t.insertStep values item m).2.name = m.name :=
  m.name_insert _ _

theorem name_deleteStep (item : Item) (m : MemoryTable) :
    (t.deleteStep values item m).2.name = m.name := rfl

variable {t values} (ofRow : Row → Except Fault Item)

/-- The insert of one item is its step. -/
theorem steps_insert (hp : t.Named) (item : Item) :
    Command.Steps t (t.insertStep values) [item]
      { sql := (t.entity values ofRow).texts.insert
        parameters := (t.entity values ofRow).insertParameters item } := by
  refine ⟨rfl, fun s hs => ?_⟩
  have hvalues : ((t.entity values ofRow).insertParameters item).map (·.value) =
      [t.insertColumns.map (t.valueOf (values item))].flatten := by
    rw [List.flatten_singleton]
    exact t.values_bound_eq t.insertColumns (values item)
  rw [hvalues]
  refine MemoryStore.run_insertText hp hs (MemoryStore.toList_insert t) (List.cons_ne_nil _ _)
    (MemoryStore.isPlaceholder_insert t) fun row hrow => ?_
  rw [List.mem_singleton.1 hrow, List.length_map]

/-- The insert of many items takes a step for each of them. -/
theorem steps_insertCommand (hp : t.Named) {items : List Item} (hne : items ≠ []) :
    Command.Steps t (t.insertStep values) items
      ((t.entity values ofRow).insertCommand items none) := by
  refine ⟨rfl, fun s hs => ?_⟩
  have hvalues : ((t.entity values ofRow).insertCommand items none).parameters.map (·.value) =
      (items.map fun item => t.insertColumns.map (t.valueOf (values item))).flatten := by
    rw [Entity.insertCommand, values_positional, List.map_flatMap, ← List.flatMap]
    exact List.flatMap_congr fun item _ => t.values_bound_eq t.insertColumns (values item)
  have hgroups : (List.range items.length).map (fun i =>
      numbered t.dialect t.insertColumns.length (1 + i * t.insertColumns.length)) ≠ [] := by
    simpa using hne
  have hsteps : s.table.stepEach (t.insertStep values) items =
      (items.length, s.table.insertRows (t.insertColumns.map (·.name))
        (items.map fun item => t.insertColumns.map (t.valueOf (values item)))) :=
    MemoryTable.stepEach_insert _ _ s.table items
  have hwidth : ∀ row ∈ items.map (fun item => t.insertColumns.map (t.valueOf (values item))),
      row.length = t.insertColumns.length := by
    intro row hrow
    obtain ⟨item, -, rfl⟩ := List.mem_map.1 hrow
    exact List.length_map _
  have hrun := MemoryStore.run_insertText hp hs (MemoryStore.toList_insertBatch t items.length)
    hgroups (MemoryStore.isPlaceholder_insertBatch t items.length) hwidth
  rw [List.length_map] at hrun
  rw [hvalues, hsteps]
  exact hrun

/-- The deletion of one item is its step. -/
theorem steps_delete (hp : t.Named) (item : Item) :
    Command.Steps t (t.deleteStep values) [item]
      { sql := t.textOf t.rowDelete
        parameters := (t.entity values ofRow).keyParameters item } := by
  refine ⟨rfl, fun s hs => ?_⟩
  have hvalues : ((t.entity values ofRow).keyParameters item).map (·.value) =
      t.keyColumns.map (t.valueOf (values item)) := t.values_bound_eq t.keyColumns (values item)
  rw [hvalues]
  exact MemoryStore.run_rowDelete hp hs _

/-! ## Deleting by the values of one key column -/

theorem deleteBatch_eq {key : Column} (hkey : t.keyColumns = [key]) :
    t.texts.deleteBatch = some (t.textOf (t.deleteHead key)) := by
  show t.deleteBatch.map t.textOf = _
  rw [deleteBatch, hkey]
  rfl

/-- The text of a deletion of rows by the values of a column. -/
def deleteText (t : Table) (key : Column) (groups : List (List (List Char))) : List Char :=
  (t.deleteHead key).chars t.dialect ++ ", ".toList.intercalate (groups.map groupText)

/-- The values of a deletion in front of which its column stands. -/
def keyList (t : Table) (key : Column) (groups : List (List (List Char))) : List Char :=
  (t.dialect.quote key.name).toList ++ " IN ".toList ++ ", ".toList.intercalate (groups.map groupText)

theorem deleteText_eq (t : Table) (key : Column) (groups : List (List (List Char))) :
    t.deleteText key groups =
      "DELETE FROM ".toList ++ t.qualifiedName.toList ++ " WHERE ".toList ++ t.keyList key groups := by
  rw [deleteText, deleteHead, keyList]
  simp only [List.cons_append, Statement.chars_word, Statement.chars_name, Statement.chars_append,
    Statement.chars_nil, MemoryStore.chars_target, List.append_assoc, List.append_nil]

variable {key : Column}

/-- The values of a single row. -/
theorem toList_valueGroups_one (d : Dialect) (count : Nat) :
    (valueGroups d 1 count 1).toList = ", ".toList.intercalate ([numbered d count 1].map groupText) := by
  rw [toList_valueGroups, List.range_one, List.map_singleton, Nat.zero_mul]

/-- The only name in front of the values is that of the column. -/
theorem namesIn_keyList (t : Table) (key : Column) (count : Nat) :
    namesIn t.dialect (t.keyList key [numbered t.dialect count 1]) = [key.name] := by
  have hshows : Statement.Shows t.dialect rowChars
      ([.name key.name] ++ .word " IN " :: valueStatement t.dialect 1 count 1) _ _ :=
    (Statement.shows_name key.name).followed (by decide) (shows_valueStatement t.dialect 1 count 1)
  have hnames := hshows.namesIn_chars (mem_rowChars_of_mem_quoteChars (openQuote_mem_quoteChars _))
  rw [List.singleton_append, Statement.chars_name, Statement.chars_word, chars_valueStatement,
    toList_valueGroups_one, ← List.append_assoc, List.append_nil] at hnames
  exact hnames

/-- A deletion by many values of a column is read by this column. -/
theorem read?_deleteText (hp : t.Named) (hkey : t.keyColumns = [key]) (count : Nat) :
    MemoryStatement.read? t.dialect t.qualifiedName.toList
        (t.deleteText key [numbered t.dialect count 1]) = some (.deleteEach [key.name]) := by
  have hmem : key ∈ t.keyColumns := by
    rw [hkey]
    exact List.mem_singleton_self key
  have hsimple : isSimpleName key.name = true := MemoryStore.simple_keyColumns hp key hmem
  have hclear : Text.Clear " IN ".toList (t.dialect.quote key.name).toList :=
    clear_quote t.dialect (by decide) hsimple
  have hcut := Text.cut?_clear hclear
    (", ".toList.intercalate ([numbered t.dialect count 1].map groupText))
  have hin : Text.contains " IN ".toList (t.keyList key [numbered t.dialect count 1]) = true :=
    Text.contains_of_cut? hcut
  have hscript : Text.contains ";\n".toList (t.deleteText key [numbered t.dialect count 1]) = false := by
    refine Text.contains_of_notMem (x := ';') (by decide) fun hm => ?_
    rcases List.mem_append.1 hm with hm | hm
    · refine notMem_chars (by decide) ?_ hm
      rw [deleteHead, lacks_append, lacks_cons, lacks_cons, lacks_cons, lacks_target hp mem_semicolon,
        lacks_name hsimple]
      decide
    · refine notMem_groups (by decide) (by decide) (fun g hg p hpm => ?_) hm
      rw [List.mem_singleton.1 hg] at hpm
      exact isPlaceholder_numbered t.dialect count 1 p hpm
  rw [deleteText_eq] at hscript ⊢
  rw [MemoryStatement.read?_delete _ _ _ hscript, MemoryStatement.readDelete, namesIn_keyList, hin]
  rfl

theorem trim_deleteText (t : Table) (key : Column) {groups : List (List (List Char))}
    (hne : groups ≠ []) : Text.trim (t.deleteText key groups) = t.deleteText key groups := by
  refine Text.trim_of_solid ?_ (Text.endsSolid_append _ (MemoryStore.endsSolid_groups hne))
  rw [deleteText_eq, List.append_assoc, List.append_assoc]
  exact Text.beginsSolid_append (by decide) _

/-- The deletion of many items takes a step for each of them. -/
theorem steps_deleteCommand (hp : t.Named) (hkey : t.keyColumns = [key]) (items : List Item) :
    Command.Steps t (t.deleteStep values) items
      ((t.entity values ofRow).deleteCommand (t.textOf (t.deleteHead key)) items) := by
  refine ⟨rfl, fun s hs => ?_⟩
  have hparameters (item : Item) : ((t.entity values ofRow).keyParameters item).map (·.value) =
      [t.valueOf (values item) key] := by
    show (t.bound t.keyColumns (values item)).map (·.value) = _
    rw [values_bound_eq, hkey, List.map_singleton]
  have hvalues : (items.flatMap (t.entity values ofRow).keyParameters).map (·.value) =
      items.map fun item => t.valueOf (values item) key := by
    rw [List.map_flatMap, List.flatMap_congr fun item _ => hparameters item, ← List.map_eq_flatMap]
  -- The text has a placeholder for each key.
  have htext (count : Nat) :
      (t.textOf (t.deleteHead key) ++ valueGroups t.dialect 1 count 1).toList =
        t.deleteText key [numbered t.dialect count 1] := by
    rw [String.toList_append, toList_valueGroups_one, textOf, Statement.toList_text, deleteText]
  have htrim (count : Nat) :
      Text.trim (t.textOf (t.deleteHead key) ++ valueGroups t.dialect 1 count 1).toList =
        t.deleteText key [numbered t.dialect count 1] := by
    rw [htext, trim_deleteText t key (List.cons_ne_nil _ _)]
  have hsteps : s.table.stepEach (t.deleteStep values) items =
      s.table.deleteEach [key.name] (items.map fun item => t.valueOf (values item) key) := by
    rw [← MemoryTable.stepEach_delete]
    unfold deleteStep
    rw [hkey]
    rfl
  rw [Entity.deleteCommand, values_positional, hvalues, hsteps]
  refine (hs.run_of_read? (htrim _) (read?_deleteText hp hkey _) _).trans ?_
  show (MemoryStore.changeTable fun m => m.deleteEach _ _).run s = _
  rw [MemoryStore.run_changeTable]

end Table

end Tablewright
