import Tablewright.Proofs.ApplyTexts

/-!
# The apply script of SQL Server

The statements of the script one after the other. It declares a variable for each count, keeps the
number of rows behind each statement that changes some, and asks for the variables at the end: the
update and the deletion see the rows that the insert has added.

## Key results

- `run_counted`: a statement that changes rows, with the one that keeps their number
- `run_changePieces`: the insert, the update and the deletion
- `run_sqlServerScript`: all statements of the script
-/

namespace Tablewright

open Sql

namespace MemoryStore

variable {s : MemoryStore} {t : Table} {changes : List (ItemChange (List Value))}

/-! ## The script of SQL Server -/

/-- The variables as they are declared. -/
def declared : List (String × Int) := [("@deleted", 0), ("@updated", 0), ("@inserted", 0)]

theorem run_declaration (d : Dialect) :
    (runScriptStatement {} (Table.declaration.chars d)).run s =
      (.ok { counters := declared }, s) := by
  have hchars : Table.declaration.chars d = "DECLARE ".toList ++
      "@inserted BIGINT = 0, @updated BIGINT = 0, @deleted BIGINT = 0".toList := by
    cases d <;> decide
  have hsplit : Text.split ", ".toList
      "@inserted BIGINT = 0, @updated BIGINT = 0, @deleted BIGINT = 0".toList =
        ["@inserted BIGINT = 0".toList, "@updated BIGINT = 0".toList,
          "@deleted BIGINT = 0".toList] := by
    have htext : "@inserted BIGINT = 0, @updated BIGINT = 0, @deleted BIGINT = 0".toList =
        ", ".toList.intercalate ["@inserted BIGINT = 0".toList, "@updated BIGINT = 0".toList,
          "@deleted BIGINT = 0".toList] := by decide
    rw [htext]
    exact Text.split_of_notMem (a := ',') (by decide) (by decide) (by decide)
  rw [hchars]
  refine run_script_declare ?_
  rw [hsplit]
  rfl

/-- The number of the last rows is kept in one of the variables. -/
theorem run_keepCount (d : Dialect) {name : String} {old : Int} (hname : isSimpleName name = true)
    {p : ScriptProgress} (hold : p.counters.lookup ("@" ++ name) = some old) :
    (runScriptStatement p ((Table.keepCount name).chars d)).run s =
      (.ok { p with counters := ("@" ++ name, p.rowCount) :: p.counters }, s) := by
  have hchars : (Table.keepCount name).chars d =
      "SET @".toList ++ (name.toList ++ " = @@ROWCOUNT".toList) := by
    rw [Table.keepCount, Statement.chars_word, Statement.chars_nil, List.append_nil,
      String.append_assoc, String.toList_append, String.toList_append]
  have hvariable : String.ofList ('@' :: name.toList) = "@" ++ name := by
    rw [← String.toList_inj, String.toList_ofList, String.toList_append]
    rfl
  -- A variable has no blank in its name, at which it would be cut.
  have hclear : Text.Clear " = ".toList name.toList := by
    refine Text.clear_of_notMem fun hm => ?_
    exact notMem_of_isSimpleName (by decide) hname hm
  rw [hchars]
  refine run_script_keep ?_
  rw [← hvariable] at hold ⊢
  exact keepRowCount_declared hclear hold _

theorem readVariable_quote (d : Dialect) {p : ScriptProgress} {name : List Char} (label : String)
    {value : Int} (hname : Text.Clear " AS ".toList name)
    (hvalue : p.counters.lookup (String.ofList name) = some value) (statement : List Char) :
    p.readVariable d statement (name ++ " AS ".toList ++ (d.quote label).toList) =
      .ok (label, value) := by
  simp only [ScriptProgress.readVariable, Text.cut?_clear hname, readOr, bind, Except.bind, hvalue,
    nameIn_quote]
  rfl

/-- The variables are answered as a row. -/
theorem run_variablesQuery (hd : s.dialect = .sqlServer) {p : ScriptProgress} {a b c : Int}
    (ha : p.counters.lookup "@inserted" = some a) (hb : p.counters.lookup "@updated" = some b)
    (hc : p.counters.lookup "@deleted" = some c) :
    (runScriptStatement p (Table.variablesQuery.chars .sqlServer)).run s =
      (.ok { p with answer := some (countRow [("inserted", a), ("updated", b), ("deleted", c)]) },
        s) := by
  have hchars : Table.variablesQuery.chars .sqlServer = "SELECT @".toList ++
      "inserted AS [inserted], @updated AS [updated], @deleted AS [deleted]".toList := by
    decide
  have hsplit : Text.split ", ".toList
      ('@' :: "inserted AS [inserted], @updated AS [updated], @deleted AS [deleted]".toList) =
        ["@inserted".toList ++ " AS ".toList ++ (Dialect.sqlServer.quote "inserted").toList,
          "@updated".toList ++ " AS ".toList ++ (Dialect.sqlServer.quote "updated").toList,
          "@deleted".toList ++ " AS ".toList ++ (Dialect.sqlServer.quote "deleted").toList] := by
    have htext : '@' :: "inserted AS [inserted], @updated AS [updated], @deleted AS [deleted]".toList =
        ", ".toList.intercalate
          ["@inserted".toList ++ " AS ".toList ++ (Dialect.sqlServer.quote "inserted").toList,
            "@updated".toList ++ " AS ".toList ++ (Dialect.sqlServer.quote "updated").toList,
            "@deleted".toList ++ " AS ".toList ++ (Dialect.sqlServer.quote "deleted").toList] := by
      decide
    rw [htext]
    exact Text.split_of_notMem (a := ',') (by decide) (by decide) (by decide)
  -- Each item is a variable and its label.
  have hclear {name : List Char} (h : ' ' ∉ name) : Text.Clear " AS ".toList name :=
    Text.clear_of_notMem h
  have hinserted := readVariable_quote .sqlServer "inserted"
    (hclear (by decide : ' ' ∉ "@inserted".toList)) ha
  have hupdated := readVariable_quote .sqlServer "updated"
    (hclear (by decide : ' ' ∉ "@updated".toList)) hb
  have hdeleted := readVariable_quote .sqlServer "deleted"
    (hclear (by decide : ' ' ∉ "@deleted".toList)) hc
  rw [hchars]
  refine run_script_query ?_
  simp only [ScriptProgress.answerVariables, hd, hsplit, List.mapM_cons, List.mapM_nil, hinserted,
    hupdated, hdeleted]
  rfl

/-- What a script has done after a statement whose rows were counted in a variable. -/
def counted (p : ScriptProgress) (name : String) (count : Nat) : ScriptProgress :=
  { p with counters := ("@" ++ name, (count : Int)) :: p.counters, rowCount := count }

theorem lookup_counted (p : ScriptProgress) (name : String) (count : Nat) :
    (counted p name count).counters.lookup ("@" ++ name) = some (count : Int) :=
  List.lookup_cons_self

theorem lookup_counted_of_ne (p : ScriptProgress) {key name : String} (h : key ≠ "@" ++ name)
    (count : Nat) : (counted p name count).counters.lookup key = p.counters.lookup key := by
  rw [counted, List.lookup_cons, beq_eq_false_iff_ne.2 h]

/-- A statement that changes the tables and the one that keeps its count. -/
theorem run_counted {s' : MemoryStore} {d : Dialect} (statement : Statement) {rest : Statement}
    {w : String} (name : String) {count : Nat} {old : Int} {p : ScriptProgress}
    (hstatement : statement = .word w :: rest)
    (hwords : ∀ r, (w.toList ++ r).isEmpty = false ∧
      (scriptWords.any (Text.startsWith · (w.toList ++ r))) = false)
    (hrun : (runStaged (statement.chars d)).run s = (.ok count, s'))
    (hname : isSimpleName name = true) (hold : p.counters.lookup ("@" ++ name) = some old)
    (pieces : List (List Char)) :
    ((statement.chars d :: (Table.keepCount name).chars d :: pieces).foldlM runScriptStatement p).run s =
      (pieces.foldlM runScriptStatement (counted p name count)).run s' := by
  have hkeep := run_keepCount (s := s') d hname (p := { p with rowCount := count }) hold
  -- The count of the statement is that of the last rows until the next one takes it.
  rw [run_foldlM_cons (run_script_staged statement hstatement hwords hrun p), run_foldlM_cons hkeep]
  rfl

/-- The update of SQL Server's script, which is left out if there is nothing to update. -/
theorem run_updatePieces (hp : t.Plain) (hfit : FitsColumns t changes) (hs : s.Stages t changes)
    {p : ScriptProgress} (hold : p.counters.lookup "@updated" = some 0) (rest : List (List Char)) :
    ((t.updatePieces.map (Statement.chars t.dialect) ++ rest).foldlM runScriptStatement p).run s =
      (rest.foldlM runScriptStatement (if t.updateColumns.isEmpty then p
        else counted p "updated" (s.table.rows.countP (t.hasKeyIn (recordsOf .update changes))))).run
          (s.holding (t.withUpdates (recordsOf .update changes) s.table.rows) s.table.nextIdentity) := by
  by_cases hempty : t.updateColumns.isEmpty = true
  · rw [Table.updatePieces, if_pos hempty, if_pos hempty, Table.withUpdates_of_isEmpty hempty]
    rfl
  · have hupdate := run_joinedUpdate hp hfit hs fun h => hempty (by rw [h]; rfl)
    rw [Table.updatePieces, if_neg hempty, if_neg hempty]
    exact run_counted t.joinedUpdate "updated" rfl (fun _ => ⟨rfl, rfl⟩) hupdate (by decide) hold rest

/-- The end of SQL Server's script: the deletion, and the counts of all three statements. -/
theorem run_deletePieces (hp : t.Plain) (hfit : FitsColumns t changes) (hs : s.Stages t changes)
    (hd : t.dialect = .sqlServer) {p : ScriptProgress} {a b old : Int}
    (ha : p.counters.lookup "@inserted" = some a) (hb : p.counters.lookup "@updated" = some b)
    (hold : p.counters.lookup "@deleted" = some old) :
    (do
      let done ← [t.joinedDelete.chars t.dialect, (Table.keepCount "deleted").chars t.dialect,
        t.dropStaging.chars t.dialect, Table.variablesQuery.chars t.dialect].foldlM runScriptStatement p
      return done.answer : MemoryOperation (Option Row)).run s =
        (.ok (some (countRow [("inserted", a), ("updated", b),
          ("deleted", (s.table.rows.countP (t.hasKeyIn (recordsOf .delete changes)) : Nat))])),
          (s.holding (t.withoutDeleted (recordsOf .delete changes) s.table.rows)
            s.table.nextIdentity).closeStaging t.stagingText) := by
  have hdelete := run_joinedDelete hp hfit hs
  have hafter := hs.holding (t.withoutDeleted (recordsOf .delete changes) s.table.rows)
    s.table.nextIdentity
  have hdrop (p : ScriptProgress) :=
    run_script_staged t.dropStaging rfl (fun _ => ⟨rfl, rfl⟩) (run_dropStaging hafter) p
  have hdialect : (closeStaging (s.holding (t.withoutDeleted (recordsOf .delete changes) s.table.rows)
      s.table.nextIdentity) t.stagingText).dialect = .sqlServer := hs.dialect.trans hd
  have hquery {p : ScriptProgress} {c : Int} (ha : p.counters.lookup "@inserted" = some a)
      (hb : p.counters.lookup "@updated" = some b) (hc : p.counters.lookup "@deleted" = some c) :=
    run_variablesQuery hdialect ha hb hc
  have hne : "@inserted" ≠ "@" ++ "deleted" ∧ "@updated" ≠ "@" ++ "deleted" := by decide
  have hanswer := hquery (p := { counted p "deleted" (s.table.rows.countP
      (t.hasKeyIn (recordsOf .delete changes))) with rowCount := (0 : Nat) })
    ((lookup_counted_of_ne p hne.1 _).trans ha) ((lookup_counted_of_ne p hne.2 _).trans hb)
    (lookup_counted p "deleted" _)
  rw [run_bind, run_counted t.joinedDelete "deleted" rfl (fun _ => ⟨rfl, rfl⟩) hdelete (by decide) hold,
    run_foldlM_cons (hdrop _), hd, run_foldlM_cons hanswer]
  rfl

/-- Behind the insert, SQL Server's script updates and deletes among all rows of the table. -/
theorem run_changePieces (hp : t.Plain) (hfit : FitsColumns t changes) (hs : s.Stages t changes)
    (hd : t.dialect = .sqlServer) (a : Nat) :
    (do
      let done ← (t.updatePieces.map (Statement.chars t.dialect) ++ [t.joinedDelete.chars t.dialect,
        (Table.keepCount "deleted").chars t.dialect, t.dropStaging.chars t.dialect,
        Table.variablesQuery.chars t.dialect]).foldlM runScriptStatement
          (counted { counters := declared } "inserted" a)
      return done.answer : MemoryOperation (Option Row)).run s =
        (.ok (some (SyncCounts.row {
            inserted := a
            updated := if t.updateColumns.isEmpty then 0
              else s.table.rows.countP (t.hasKeyIn (recordsOf .update changes))
            deleted := (t.withUpdates (recordsOf .update changes) s.table.rows).countP
              (t.hasKeyIn (recordsOf .delete changes)) })),
          (s.holding (t.withoutDeleted (recordsOf .delete changes)
            (t.withUpdates (recordsOf .update changes) s.table.rows))
              s.table.nextIdentity).closeStaging t.stagingText) := by
  have hupdate := run_updatePieces (p := counted { counters := declared } "inserted" a) hp hfit hs rfl
    [t.joinedDelete.chars t.dialect, (Table.keepCount "deleted").chars t.dialect,
      t.dropStaging.chars t.dialect, Table.variablesQuery.chars t.dialect]
  have hafter := hs.holding (t.withUpdates (recordsOf .update changes) s.table.rows)
    s.table.nextIdentity
  rw [run_bind, hupdate, ← run_bind]
  by_cases hempty : t.updateColumns.isEmpty = true
  · rw [if_pos hempty, if_pos hempty]
    exact run_deletePieces hp hfit hafter hd rfl rfl rfl
  · rw [if_neg hempty, if_neg hempty]
    exact run_deletePieces hp hfit hafter hd rfl rfl rfl

/-- The script of SQL Server updates and deletes among the old rows and the new ones. -/
theorem run_sqlServerScript (hp : t.Plain) (hfit : FitsColumns t changes) (hs : s.Stages t changes)
    (hd : t.dialect = .sqlServer) :
    (do
      let done ← (t.sqlServerPieces.map (Statement.chars t.dialect) ++
        [Table.variablesQuery.chars t.dialect]).foldlM runScriptStatement {}
      return done.answer : MemoryOperation (Option Row)).run s =
        (.ok (some (t.synced s.table changes).1.row),
          { s with table := (t.synced s.table changes).2 }.closeStaging t.stagingText) := by
  have hinsert := run_applyInsert hp hfit hs
  have hafter := hs.holding (s.table.rows ++ t.newRecords s.table.nextIdentity (recordsOf .insert changes))
    (t.nextAfter s.table.nextIdentity (recordsOf .insert changes).length)
  have hlength : (t.newRecords s.table.nextIdentity (recordsOf .insert changes)).length =
      (recordsOf .insert changes).length := List.length_mapIdx
  simp only [Table.sqlServerPieces, List.map_append, List.map_cons, List.map_nil, List.append_assoc,
    List.cons_append, List.nil_append]
  rw [run_bind, run_foldlM_cons (run_quiet _ {} s), run_foldlM_cons (run_declaration _),
    run_counted t.applyInsert "inserted" rfl (fun _ => ⟨rfl, rfl⟩) hinsert (by decide) rfl,
    ← run_bind, run_changePieces hp hfit hafter hd, Table.synced, hd, hlength]
  rfl

end MemoryStore

end Tablewright
