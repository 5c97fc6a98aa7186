import Tablewright.Proofs.ApplyQuery
import Tablewright.Proofs.ApplyScript
import Tablewright.Proofs.StagingTables

/-!
# Applying staged changes

What the store in memory makes of an apply script as it is sent. The text is read as a script, its
statements run one after the other, and the row that it answers has the counts of the batch: a batch
that was staged is applied as `Table.synced` says, with the index or without it, and its staging table
is gone.

## Key results

- `run_apply`, `run_applyIndexed`: the scripts on a store whose staging table holds a batch
- `run_staged_script`: creating the staging table, loading it and applying it
-/

namespace Tablewright

open Sql

namespace Table

variable (t : Table)

/-- The statements of the apply script but the last one. -/
def applyPieces : List Statement :=
  match t.dialect with
  | .sqlServer => t.sqlServerPieces
  | .postgres => [t.withParts]

/-- The last statement of the apply script. -/
def lastPiece : Statement :=
  match t.dialect with
  | .sqlServer => variablesQuery
  | .postgres => t.dropStaging

/-- What stands behind the last statement. -/
def scriptEnd : List Char :=
  match t.dialect with
  | .sqlServer => [';']
  | .postgres => []

theorem chars_apply :
    t.apply.chars t.dialect = ";\n".toList.intercalate
      (t.applyPieces.map (Statement.chars t.dialect) ++ [t.lastPiece.chars t.dialect ++ t.scriptEnd]) := by
  rw [apply, applyPieces, lastPiece, scriptEnd]
  cases t.dialect with
  | sqlServer => exact chars_sqlServerApply t _
  | postgres =>
    rw [List.append_nil]
    exact chars_postgresApply t _

end Table

namespace MemoryStore

variable {s s' : MemoryStore} {t : Table} {changes : List (ItemChange (List Value))}

/-! ## The pieces -/

theorem lacks_withParts (hp : t.Plain) : t.withParts.lacks ';' = true := by
  have hnames : (partNames.all fun name => (Fragment.word (name ++ " AS (")).lacks ';') = true := by
    decide
  have hparts : Statement.lacks ';' (Sql.joined ",\n" t.parts) = true := by
    refine lacks_joined (by decide) fun p hm => ?_
    obtain ⟨name, hname, inner, rfl, hinner⟩ := mem_parts hp hm
    rw [Table.part, lacks_append, lacks_cons, List.all_eq_true.1 hnames name hname,
      hinner ';' (by decide)]
    decide
  have hcounts : t.partCounts.lacks ';' = true := by
    rw [Table.partCounts]
    by_cases hempty : t.updateColumns.isEmpty = true
    · rw [if_pos hempty]
      decide
    · rw [if_neg hempty]
      decide
  rw [Table.withParts, lacks_append, lacks_cons, lacks_cons, hparts, hcounts]
  decide

theorem isPiece_withParts (hp : t.Plain) (d : Dialect) : IsPiece (t.withParts.chars d) := by
  refine isPiece_chars rfl (by decide) ?_ (lacks_withParts hp)
  exact endsSolid_append _ <| endsSolid_cons _ <| endsSolid_cons _ <| endsSolid_cons _ <|
    endsSolid_cons _ <| endsSolid_cons _ <| endsSolid_cons _ <| endsSolid_name d (by decide)

theorem isPiece_applyPieces (hp : t.Plain) :
    ∀ p ∈ t.applyPieces.map (Statement.chars t.dialect), IsPiece p := by
  have hserver := isPiece_sqlServerPieces hp
  have hquery := isPiece_withParts hp t.dialect
  rw [Table.applyPieces]
  cases hd : t.dialect with
  | sqlServer => rwa [hd] at hserver
  | postgres =>
    rw [hd] at hquery
    intro p hm
    rw [List.map_cons, List.map_nil, List.mem_singleton] at hm
    rwa [hm]

/-- The last statement is read without what stands behind it. -/
theorem lastPiece_text (hp : t.Plain) :
    Text.contains ";\n".toList (t.lastPiece.chars t.dialect ++ t.scriptEnd) = false ∧
      Text.endsSolid (t.lastPiece.chars t.dialect ++ t.scriptEnd) = true ∧
      Text.trimEndOf ';' (Text.trim (t.lastPiece.chars t.dialect ++ t.scriptEnd)) =
        t.lastPiece.chars t.dialect := by
  have hdrop := isPiece_dropStaging hp
  rw [Table.lastPiece, Table.scriptEnd]
  cases hd : t.dialect with
  | sqlServer =>
    -- A text without names of the table; it ends with a semicolon that is not read.
    show Text.contains ";\n".toList (Table.variablesQuery.chars .sqlServer ++ [';']) = false ∧
      Text.endsSolid (Table.variablesQuery.chars .sqlServer ++ [';']) = true ∧
      Text.trimEndOf ';' (Text.trim (Table.variablesQuery.chars .sqlServer ++ [';'])) =
        Table.variablesQuery.chars .sqlServer
    decide
  | postgres =>
    rw [hd] at hdrop
    rw [List.append_nil]
    exact ⟨Text.contains_of_notMem (by decide) hdrop.semicolon, hdrop.ends, by
      rw [Text.trim_of_solid hdrop.begins hdrop.ends, Text.trimEndOf_of_notMem hdrop.semicolon]⟩

/-! ## Scripts as they are sent -/

/-- A statement that consists of several ones is run as a script. -/
theorem run_script {sql : String} {pieces : List (List Char)} {last final : List Char} {row : Row}
    (htext : sql.toList = ";\n".toList.intercalate (pieces ++ [last])) (hne : pieces ≠ [])
    (hpieces : ∀ p ∈ pieces, IsPiece p) (hlast : Text.contains ";\n".toList last = false)
    (hends : Text.endsSolid last = true) (hfinal : Text.trimEndOf ';' (Text.trim last) = final)
    (hrun : (do
      let done ← (pieces ++ [final]).foldlM runScriptStatement {}
      return done.answer : MemoryOperation (Option Row)).run s = (.ok (some row), s')) :
    (MemoryStore.run sql []).run s = (.ok { rows := [row] }, s') := by
  obtain ⟨p, ps, rfl⟩ := List.exists_cons_of_ne_nil hne
  have hp := hpieces p List.mem_cons_self
  -- A script begins and ends with no white space, and is told from a single statement by a semicolon.
  have htrim : Text.trim sql.toList = sql.toList := by
    rw [htext]
    exact solid_intercalate hp ps hends
  have hscript : Text.contains ";\n".toList sql.toList = true := by
    rw [htext]
    exact contains_intercalate hp (by simp)
  have hread (d : Dialect) (target : List Char) :
      MemoryStatement.read? d target sql.toList = some .script := by
    simp only [MemoryStatement.read?, hscript, Bool.true_or, if_true]
  have hstatements := scriptStatements_intercalate hpieces hlast
  rw [hfinal, ← htext] at hstatements
  rw [run_of_read? htrim (hread _ _)]
  show (do return { rows := (← runScript sql.toList).toList } : MemoryOperation MemoryAnswer).run s = _
  rw [run_bind_ok (by rw [runScript, hstatements]; exact hrun)]
  rfl

/-- The pieces of the apply script do what `Table.synced` says. -/
theorem run_applyPieces (hp : t.Plain) (hfit : FitsColumns t changes) (hs : s.Stages t changes) :
    (do
      let done ← (t.applyPieces.map (Statement.chars t.dialect) ++
        [t.lastPiece.chars t.dialect]).foldlM runScriptStatement {}
      return done.answer : MemoryOperation (Option Row)).run s =
        (.ok (some (t.synced s.table changes).1.row),
          { s with table := (t.synced s.table changes).2 }.closeStaging t.stagingText) := by
  have hserver := run_sqlServerScript hp hfit hs
  have hparts := run_parts hp hfit hs
  have hafter : Stages { s with table := (t.synced s.table changes).2 } t changes :=
    hs.holding (t.synced s.table changes).2.rows (t.synced s.table changes).2.nextIdentity
  have hdrop := run_script_staged t.dropStaging rfl (fun _ => ⟨rfl, rfl⟩) (run_dropStaging hafter)
  have hchars : t.withParts.chars t.dialect = "WITH ".toList ++
      (",\n".toList.intercalate (t.parts.map (Statement.chars t.dialect)) ++ "\nSELECT ".toList ++
        t.partCounts.chars t.dialect) := by
    rw [Table.withParts]
    simp only [List.cons_append, Statement.chars_word, Statement.chars_append,
      Statement.chars_joined, List.append_assoc]
  rw [Table.applyPieces, Table.lastPiece]
  -- One script counts in variables, the other one has a single query in front of the removal.
  cases hd : t.dialect with
  | sqlServer =>
    rw [hd] at hserver
    exact hserver rfl
  | postgres =>
    have hwith := run_script_parts {} (hparts hd)
    rw [← hchars] at hwith
    rw [hd] at hwith hdrop
    show (do
      let done ← [t.withParts.chars .postgres, t.dropStaging.chars .postgres].foldlM
        runScriptStatement {}
      return done.answer : MemoryOperation (Option Row)).run s = _
    rw [run_bind, run_foldlM_cons hwith, run_foldlM_cons (hdrop _)]
    rfl

/-- The index changes no row and no count. -/
theorem run_indexPieces (hp : t.Plain) (hs : s.Stages t changes) (rest : List (List Char)) :
    ((t.indexPieces.map (Statement.chars t.dialect) ++ rest).foldlM runScriptStatement {}).run s =
      (rest.foldlM runScriptStatement {}).run s := by
  have hclustered :=
    run_script_staged t.clusteredIndex rfl (fun _ => ⟨rfl, rfl⟩) (run_clusteredIndex hp hs) {}
  have hplain := run_script_staged t.plainIndex rfl (fun _ => ⟨rfl, rfl⟩) (run_plainIndex hp hs) {}
  have hanalyze :=
    run_script_staged t.analyzeStaging rfl (fun _ => ⟨rfl, rfl⟩) (run_analyzeStaging hs) {}
  rw [Table.indexPieces]
  cases hd : t.dialect with
  | sqlServer =>
    rw [hd] at hclustered
    exact run_foldlM_cons hclustered
  | postgres =>
    rw [hd] at hplain hanalyze
    exact (run_foldlM_cons hplain).trans (run_foldlM_cons hanalyze)

theorem applyPieces_ne_nil (t : Table) : t.applyPieces.map (Statement.chars t.dialect) ≠ [] := by
  rw [Table.applyPieces]
  cases t.dialect <;> simp [Table.sqlServerPieces]

/-- The apply script answers the counts of the staged batch, applies it and removes its staging
table. -/
theorem run_apply (hp : t.Plain) (hfit : FitsColumns t changes) (hs : s.Stages t changes) :
    (MemoryStore.run (t.textOf t.apply) []).run s =
      (.ok { rows := [(t.synced s.table changes).1.row] },
        { s with table := (t.synced s.table changes).2 }.closeStaging t.stagingText) := by
  obtain ⟨hlast, hends, hfinal⟩ := lastPiece_text hp
  have htext : (t.textOf t.apply).toList = ";\n".toList.intercalate
      (t.applyPieces.map (Statement.chars t.dialect) ++
        [t.lastPiece.chars t.dialect ++ t.scriptEnd]) := by
    rw [Table.textOf, Statement.toList_text, t.chars_apply]
  exact run_script htext (applyPieces_ne_nil t) (isPiece_applyPieces hp) hlast hends hfinal
    (run_applyPieces hp hfit hs)

/-- The script that indexes the staging table first does the same. -/
theorem run_applyIndexed (hp : t.Plain) (hfit : FitsColumns t changes) (hs : s.Stages t changes) :
    (MemoryStore.run (t.textOf t.applyIndexed) []).run s =
      (.ok { rows := [(t.synced s.table changes).1.row] },
        { s with table := (t.synced s.table changes).2 }.closeStaging t.stagingText) := by
  obtain ⟨hlast, hends, hfinal⟩ := lastPiece_text hp
  have htext : (t.textOf t.applyIndexed).toList = ";\n".toList.intercalate
      (t.indexPieces.map (Statement.chars t.dialect) ++ t.applyPieces.map (Statement.chars t.dialect) ++
        [t.lastPiece.chars t.dialect ++ t.scriptEnd]) := by
    rw [Table.textOf, Statement.toList_text, chars_applyIndexed t (by simp) t.chars_apply,
      List.append_assoc]
  refine run_script htext (by simp [applyPieces_ne_nil t]) (fun p hm => ?_) hlast hends hfinal ?_
  · rcases List.mem_append.1 hm with hm | hm
    · exact isPiece_indexPieces hp p hm
    · exact isPiece_applyPieces hp p hm
  -- The index comes first and leaves the store as it was.
  · rw [List.append_assoc, run_bind, run_indexPieces hp hs, ← run_bind]
    exact run_applyPieces hp hfit hs

/-! ## From the empty staging table to the counts -/

/-- The three steps of a staged batch: the staging table is created, the changes are loaded and the
script applies them. -/
def runStagedBatch (t : Table) (changes : List (ItemChange (List Value))) (indexed : Bool) :
    MemoryOperation MemoryAnswer := do
  let _ ← MemoryStore.run (t.textOf t.stagingCreate) []
  let _ ← MemoryStore.load t.stagingText t.stagingColumns (changes.map stagedRow)
  MemoryStore.run (t.textOf (if indexed then t.applyIndexed else t.apply)) []

/-- Whatever the table held and whatever was staged before, the new staging table is gone again. -/
theorem closeStaging_openStaging (s : MemoryStore) (name : String) (table : StagingTable) :
    (s.openStaging name table).closeStaging name = s.closeStaging name := by
  simp [openStaging, closeStaging, List.filter_filter]

/-- A staged batch is applied as `Table.synced` says: the script answers its counts in one row, the
rows and the next identity are those of `synced`, and the staging table is gone. -/
theorem run_staged_script (hp : t.Plain) (hs : s.Serves t) (hfit : FitsColumns t changes)
    (indexed : Bool) :
    (runStagedBatch t changes indexed).run s =
      (.ok { rows := [(t.synced s.table changes).1.row] },
        { s with
          table := (t.synced s.table changes).2
          staging := s.staging.filter (·.1 != t.stagingText) }) := by
  have hload := run_load (s := s) t.stagingText t.stagingColumns [] (changes.map stagedRow)
  have hstages := Stages.ofLoad hs changes
  have happly := run_apply hp hfit hstages
  have hindexed := run_applyIndexed hp hfit hstages
  -- Whether or not an older staging table was there, none is left.
  have hclose := closeStaging_openStaging { s with table := (t.synced s.table changes).2 }
    t.stagingText ⟨t.stagingColumns, changes.map stagedRow⟩
  rw [List.nil_append] at hload
  rw [runStagedBatch, run_bind_ok (run_stagingCreate hp hs), run_bind_ok hload]
  cases indexed with
  | false => exact happly.trans (congrArg (Prod.mk _) hclose)
  | true => exact hindexed.trans (congrArg (Prod.mk _) hclose)

/-- A key that the batch repeats: the first update of a row counts, and a row that it inserts is
updated or removed only where the script sees it. -/
theorem run_staged_script_stock :
    (Table.stock .postgres).Plain ∧
      (runStagedBatch (Table.stock .postgres)
        [⟨.update, [.int64 2, .text "b", .int32 8]⟩, ⟨.insert, [.null, .text "c", .int32 1]⟩,
          ⟨.update, [.int32 2, .text "b", .int32 9]⟩, ⟨.delete, [.int64 1, .null, .null]⟩,
          ⟨.delete, [.int64 3, .null, .null]⟩] true).run (Table.stocked .postgres [4, 5]) =
        (.ok { rows := [SyncCounts.row ⟨1, 1, 1⟩] },
          { Table.stocked .postgres [] with
            table := { (Table.stocked .postgres []).table with
              rows := [[.int64 2, .text "b", .int32 8], [.int64 3, .text "c", .int32 1]]
              nextIdentity := 4 } }) := by
  have hp : (Table.stock .postgres).Plain := by decide +kernel
  refine ⟨hp, (run_staged_script hp ⟨rfl, by decide +kernel⟩ ?_ true).trans ?_⟩
  · unfold FitsColumns
    decide +kernel
  · rfl

end MemoryStore

end Tablewright
