import Tablewright.Memory.Script
import Tablewright.Proofs.Cutting

/-!
# The forms of the statements of a script

Which statement of a script each composed text is read as. Every form has a beginning of its own; the
name of the table, which follows some of them, begins with a quote and is no alias.

## Key results

- `readStaged?_insert`, `readStaged?_index`, `readStaged?_analyze`, `readStaged?_drop`
- `readStaged?_joinedUpdate`, `readStaged?_fromUpdate`: an update in either dialect
- `readStaged?_joinedDelete`, `readStaged?_usingDelete`: a deletion in either dialect
-/

namespace Tablewright.MemoryStore

open Text

variable {target staging settings on : List Char}

/-- A join falls apart behind the staging table and behind the conditions on the key. -/
theorem readJoin_clear (hstaging : Clear " AS s ON ".toList staging)
    (hon : Clear " WHERE ".toList on) (filter : List Char) :
    readJoin (staging ++ " AS s ON ".toList ++ (on ++ " WHERE ".toList ++ filter)) =
      some (staging, joinConditions on filter) := by
  rw [readJoin, cut?_clear hstaging]
  simp only [Option.bind_eq_bind, Option.bind_some, cut?_clear hon]
  rfl

/-- The first form that begins like a text reads it. -/
theorem readStaged?_of_findSome? {text : List Char} {statement : StagedStatement}
    (h : (forms target).findSome? (fun form => form text) = some (some statement)) :
    readStaged? target text = some statement := by
  rw [readStaged?, h]
  rfl

theorem readStaged?_insert (target rest : List Char) :
    readStaged? target ("INSERT INTO ".toList ++ target ++ [' '] ++ rest) = some (.insert rest) := by
  apply readStaged?_of_findSome?
  simp only [forms, List.findSome?_cons, after?_append, Option.map_some]

theorem readStaged?_joinedUpdate (target : List Char) (hsettings : Clear " FROM ".toList settings)
    (hstaging : Clear " AS s ON ".toList staging) (hon : Clear " WHERE ".toList on)
    (filter : List Char) :
    readStaged? target ("UPDATE t SET ".toList ++ (settings ++ " FROM ".toList ++
        ((target ++ " AS t INNER JOIN ".toList) ++
          (staging ++ " AS s ON ".toList ++ (on ++ " WHERE ".toList ++ filter))))) =
      some (.update staging settings (joinConditions on filter)) := by
  have hinsert (rest : List Char) :
      after? ("INSERT INTO ".toList ++ target ++ [' ']) ("UPDATE t SET ".toList ++ rest) = none := rfl
  apply readStaged?_of_findSome?
  simp only [forms, List.findSome?_cons, hinsert, Option.map_none, after?_append, Option.map_some,
    cut?_clear hsettings, Option.bind_eq_bind, Option.bind_some, readJoin_clear hstaging hon]
  rfl

theorem readStaged?_fromUpdate {q : Char} {name : List Char} (htarget : target = q :: name)
    (hq : 't' ≠ q) (hsettings : Clear " FROM ".toList settings)
    (hstaging : Clear " AS s WHERE ".toList staging) (conditions : List Char) :
    readStaged? target ("UPDATE ".toList ++ target ++ " AS t SET ".toList ++
        (settings ++ " FROM ".toList ++ (staging ++ " AS s WHERE ".toList ++ conditions))) =
      some (.update staging settings conditions) := by
  have hinsert (rest : List Char) :
      after? ("INSERT INTO ".toList ++ target ++ [' '])
        ("UPDATE ".toList ++ target ++ " AS t SET ".toList ++ rest) = none := rfl
  -- The alias of the other form is no beginning of a quoted name.
  have halias (rest : List Char) : after? "UPDATE t SET ".toList
      ("UPDATE ".toList ++ target ++ " AS t SET ".toList ++ rest) = none := by
    have hset : "UPDATE t SET ".toList = "UPDATE ".toList ++ 't' :: " SET ".toList := by decide
    rw [hset, htarget, List.append_assoc, List.append_assoc, after?_append_append]
    exact after?_cons_ne hq
  -- The two forms before this one begin differently; this one begins with the name itself.
  apply readStaged?_of_findSome?
  simp only [forms, List.findSome?_cons, hinsert, halias, Option.map_none, after?_append,
    Option.map_some, cut?_clear hsettings, Option.bind_eq_bind, Option.bind_some,
    cut?_clear hstaging]
  rfl

/-- A text that begins with none of the first beginnings is read by the forms behind them. -/
theorem findSome?_forms_delete {text : List Char}
    (hinsert : after? "INSERT INTO ".toList text = none)
    (hupdate : after? "UPDATE ".toList text = none) :
    (forms target).findSome? (fun form => form text) =
      ((forms target).drop 3).findSome? fun form => form text := by
  have hset : "UPDATE t SET ".toList = "UPDATE ".toList ++ "t SET ".toList := by decide
  have halias : after? "UPDATE t SET ".toList text = none := by
    rw [hset]
    exact after?_append_eq_none hupdate _
  simp only [forms, List.findSome?_cons, List.append_assoc, after?_append_eq_none hinsert,
    after?_append_eq_none hupdate, halias, Option.map_none, List.drop]

theorem readStaged?_joinedDelete (target : List Char) (hstaging : Clear " AS s ON ".toList staging)
    (hon : Clear " WHERE ".toList on) (filter : List Char) :
    readStaged? target ("DELETE t FROM ".toList ++ target ++ " AS t INNER JOIN ".toList ++
        (staging ++ " AS s ON ".toList ++ (on ++ " WHERE ".toList ++ filter))) =
      some (.delete staging (joinConditions on filter)) := by
  apply readStaged?_of_findSome?
  rw [findSome?_forms_delete rfl rfl]
  simp only [forms, List.drop, List.findSome?_cons, after?_append, Option.map_some,
    Option.bind_eq_bind, readJoin_clear hstaging hon]
  rfl

theorem readStaged?_usingDelete (target : List Char)
    (hstaging : Clear " AS s WHERE ".toList staging) (conditions : List Char) :
    readStaged? target ("DELETE FROM ".toList ++ target ++ " AS t USING ".toList ++
        (staging ++ " AS s WHERE ".toList ++ conditions)) =
      some (.delete staging conditions) := by
  have hjoined (rest : List Char) :
      after? ("DELETE t FROM ".toList ++ target ++ " AS t INNER JOIN ".toList)
        ("DELETE FROM ".toList ++ target ++ " AS t USING ".toList ++ rest) = none := rfl
  apply readStaged?_of_findSome?
  rw [findSome?_forms_delete rfl rfl]
  simp only [forms, List.drop, List.findSome?_cons, hjoined, Option.map_none, after?_append,
    Option.map_some, Option.bind_eq_bind, cut?_clear hstaging]
  rfl

/-! ## Statements on the staging table alone -/

/-- A text that begins like no change of the table is read by the last forms. -/
theorem findSome?_forms_staging {text : List Char}
    (hinsert : after? "INSERT INTO ".toList text = none)
    (hupdate : after? "UPDATE ".toList text = none) (hdelete : after? "DELETE ".toList text = none) :
    (forms target).findSome? (fun form => form text) =
      ((forms target).drop 5).findSome? fun form => form text := by
  have hjoined : "DELETE t FROM ".toList = "DELETE ".toList ++ "t FROM ".toList := by decide
  have husing : "DELETE FROM ".toList = "DELETE ".toList ++ "FROM ".toList := by decide
  rw [findSome?_forms_delete hinsert hupdate]
  simp only [forms, List.drop, List.findSome?_cons, hjoined, husing, List.append_assoc,
    after?_append_eq_none hdelete, Option.map_none]

theorem readStaged?_clusteredIndex (target : List Char) {name : List Char}
    (hname : Clear " ON ".toList name)
    (hstaging : Clear " (".toList staging) (columns : List Char) :
    readStaged? target ("CREATE CLUSTERED INDEX ".toList ++ (name ++ " ON ".toList ++
        (staging ++ " (".toList ++ columns))) = some (.index staging columns) := by
  apply readStaged?_of_findSome?
  rw [findSome?_forms_staging rfl rfl rfl]
  have hrest : (some (staging ++ " (".toList ++ columns) <|> after? "CREATE INDEX ON ".toList
      ("CREATE CLUSTERED INDEX ".toList ++ (name ++ " ON ".toList ++
        (staging ++ " (".toList ++ columns)))) = some (staging ++ " (".toList ++ columns) := rfl
  simp only [forms, List.drop, List.findSome?_cons, after?_append, Option.bind_eq_bind,
    Option.bind_some, cut?_clear hname, Option.pure_def, hrest, Option.map_some,
    cut?_clear hstaging]

theorem readStaged?_index (target : List Char) (hstaging : Clear " (".toList staging)
    (columns : List Char) :
    readStaged? target ("CREATE INDEX ON ".toList ++ (staging ++ " (".toList ++ columns)) =
      some (.index staging columns) := by
  have hclustered (rest : List Char) :
      after? "CREATE CLUSTERED INDEX ".toList ("CREATE INDEX ON ".toList ++ rest) = none := rfl
  apply readStaged?_of_findSome?
  rw [findSome?_forms_staging rfl rfl rfl]
  have hrest : (none <|> some (staging ++ " (".toList ++ columns)) =
      some (staging ++ " (".toList ++ columns) := rfl
  simp only [forms, List.drop, List.findSome?_cons, hclustered, after?_append, Option.bind_eq_bind,
    Option.bind_none, hrest, Option.map_some, cut?_clear hstaging]
  rfl

theorem readStaged?_analyze (target staging : List Char) :
    readStaged? target ("ANALYZE ".toList ++ staging) = some (.analyze staging) := by
  apply readStaged?_of_findSome?
  rw [findSome?_forms_staging rfl rfl rfl]
  rfl

theorem readStaged?_drop (target staging : List Char) :
    readStaged? target ("DROP TABLE ".toList ++ staging) = some (.drop staging) := by
  apply readStaged?_of_findSome?
  rw [findSome?_forms_staging rfl rfl rfl]
  rfl

end Tablewright.MemoryStore
