import Tablewright.Memory.Statement
import Tablewright.Proofs.ColumnLists
import Tablewright.Proofs.Placeholders
import Tablewright.Proofs.Runs
import Tablewright.Proofs.StagedReading

/-!
# The statements of a script

A script falls apart into its statements at the ends of lines with a semicolon. A statement stands in
a script as it is if no semicolon is in it and no white space at its ends; which characters it lacks
is read off its words, as simple names hold none of them.

## Key results

- `notMem_chars`: a character that stands in no word of a statement stands nowhere in its text
- `scriptStatements_intercalate`: the statements of a script are those it was put together from
- `run_script_staged`: a statement that belongs to no other kind changes the tables
-/

namespace Tablewright

namespace Text

/-! ## Ends without white space -/

/-- Whether a text begins with a character that is not white space. -/
def beginsSolid (s : List Char) : Bool :=
  s.head?.any fun c => !isBlank c

/-- Whether a text ends with a character that is not white space. -/
def endsSolid (s : List Char) : Bool :=
  s.getLast?.any fun c => !isBlank c

variable {s t : List Char}

theorem beginsSolid_append (h : beginsSolid s = true) (t : List Char) :
    beginsSolid (s ++ t) = true := by
  cases s with
  | nil => simp [beginsSolid] at h
  | cons c s => exact h

theorem endsSolid_append (s : List Char) (h : endsSolid t = true) : endsSolid (s ++ t) = true := by
  rw [endsSolid, List.getLast?_append]
  cases ht : t.getLast? with
  | none => simp [endsSolid, ht] at h
  | some c => simpa [endsSolid, ht] using h

theorem trim_of_solid (hb : beginsSolid s = true) (he : endsSolid s = true) : trim s = s := by
  cases s with
  | nil => rfl
  | cons c s =>
    have hlast := he
    rw [endsSolid, List.getLast?_eq_some_getLast (List.cons_ne_nil c s)] at hlast
    exact trim_eq (by simpa [beginsSolid] using hb) (by simpa using hlast) rfl
      (List.dropLast_concat_getLast (List.cons_ne_nil c s)).symm

theorem trimEndOf_of_notMem {c : Char} (h : c ∉ s) : trimEndOf c s = s := by
  have hdrop : s.reverse.dropWhile (· == c) = s.reverse := by
    cases hs : s.reverse with
    | nil => rfl
    | cons e r =>
      have he : e ≠ c := by
        rintro rfl
        exact h (List.mem_reverse.1 (hs ▸ List.mem_cons_self))
      simp [he]
  rw [trimEndOf, hdrop, List.reverse_reverse]

theorem endsSolid_intercalate {between : List Char} {parts : List (List Char)} (hne : parts ≠ [])
    (h : ∀ p ∈ parts, endsSolid p = true) : endsSolid (between.intercalate parts) = true := by
  obtain ⟨p, ps, rfl⟩ := List.exists_cons_of_ne_nil hne
  rw [intercalate_cons_eq]
  rcases List.eq_nil_or_concat ps with rfl | ⟨front, last, rfl⟩
  · rw [List.flatMap_nil, List.append_nil]
    exact h p List.mem_cons_self
  · rw [List.concat_eq_append, List.flatMap_append, List.flatMap_singleton]
    exact endsSolid_append _ (endsSolid_append _ (endsSolid_append _ (h last (by simp))))

/-- A text that lacks a character of a separator does not contain the separator. -/
theorem contains_of_notMem {sep : List Char} {x : Char} (hx : x ∈ sep) (h : x ∉ s) :
    contains sep s = false := by
  cases hc : cut? sep s with
  | none => simp [contains, hc]
  | some p =>
    have hs := eq_append_of_cut? hc
    exact absurd (by rw [hs]; simp [hx]) h

theorem contains_of_cut? {sep left right : List Char} (h : cut? sep s = some (left, right)) :
    contains sep s = true := by
  rw [contains, h]
  rfl

end Text

namespace Sql

theorem IsPlaceholder.endsSolid {p : List Char} (h : IsPlaceholder p) : Text.endsSolid p = true := by
  obtain ⟨mark, name, hm, hname, rfl⟩ := h
  rcases List.eq_nil_or_concat name.toList with hnil | ⟨front, last, hlast⟩
  · rw [hnil]
    rcases List.mem_cons.1 hm with rfl | hm
    · decide
    · rw [List.mem_singleton.1 hm]
      decide
  · rw [hlast, List.concat_eq_append, ← List.cons_append]
    refine Text.endsSolid_append _ ?_
    rw [isPlainName, hlast, List.concat_eq_append, List.all_append, Bool.and_eq_true] at hname
    have hword : Text.isAsciiWord last = true := by simpa using hname.2
    simp [Text.endsSolid, isBlank_of_isAsciiWord hword]

/-! ## Characters that a statement lacks -/

/-- Whether a character stands in no word of a fragment and marks no parameter, and its name is
simple. -/
def Fragment.lacks (x : Char) : Fragment → Bool
  | .word w => !w.toList.contains x
  | .name n => isSimpleName n
  | .parameter n _ => isPlainName n && !(['@', '$'].contains x)

variable {d : Dialect} {x : Char}

/-- Whether a character stands in no word of a statement and marks no parameter, and its names are
simple. -/
def Statement.lacks (x : Char) (s : Statement) : Bool :=
  s.all (Fragment.lacks x)

@[simp] theorem lacks_nil : Statement.lacks x [] = true := rfl

@[simp] theorem lacks_cons (f : Fragment) (s : Statement) :
    Statement.lacks x (f :: s) = (f.lacks x && s.lacks x) := rfl

@[simp] theorem lacks_append (s t : Statement) :
    Statement.lacks x (s ++ t) = (s.lacks x && t.lacks x) :=
  List.all_append

theorem lacks_joined {between : String} {parts : List Statement}
    (hbetween : (Fragment.word between).lacks x = true) (h : ∀ p ∈ parts, p.lacks x = true) :
    (joined between parts).lacks x = true := by
  cases parts with
  | nil => rfl
  | cons p parts =>
    rw [Statement.joined_cons, lacks_append, h p List.mem_cons_self, Bool.true_and,
      Statement.lacks, List.all_flatMap, List.all_eq_true]
    intro q hq
    rw [List.all_cons, hbetween]
    exact h q (List.mem_cons_of_mem _ hq)

/-- A character that a statement lacks stands nowhere in its text. -/
theorem notMem_chars {s : Statement} (hx : isSeparator [x] = true) (h : s.lacks x = true) :
    x ∉ s.chars d := by
  intro hm
  obtain ⟨f, hf, hm⟩ := List.mem_flatMap.1 hm
  have hlacks := List.all_eq_true.1 h f hf
  cases f with
  | word w =>
    rw [Fragment.lacks, Bool.not_eq_true', List.contains_eq_mem, decide_eq_false_iff_not] at hlacks
    exact hlacks hm
  | name n => exact notMem_quote d hx hlacks hm
  | parameter n i =>
    rw [Fragment.lacks, Bool.and_eq_true, Bool.not_eq_true', List.contains_eq_mem,
      decide_eq_false_iff_not] at hlacks
    have hchar : isNameChar x = false := by
      rw [isSeparator, Bool.and_eq_true] at hx
      simpa using hx.1
    exact (isPlaceholder_named d hlacks.1 i).notMem hchar hlacks.2 hm

end Sql

namespace MemoryStore

open Sql

/-! ## Scripts -/

/-- A text stands as one statement in a script. -/
structure IsPiece (p : List Char) : Prop where
  begins : Text.beginsSolid p = true
  ends : Text.endsSolid p = true
  semicolon : ';' ∉ p

/-- The statements of a script are those it was put together from; the last one may have a semicolon
behind it. -/
theorem scriptStatements_intercalate {pieces : List (List Char)} (h : ∀ p ∈ pieces, IsPiece p)
    {last : List Char} (hlast : Text.contains ";\n".toList last = false) :
    scriptStatements (";\n".toList.intercalate (pieces ++ [last])) =
      pieces ++ [Text.trimEndOf ';' (Text.trim last)] := by
  have hclear : ∀ p ∈ pieces, Text.Clear ";\n".toList p :=
    fun p hp => Text.clear_of_notMem (h p hp).semicolon
  rw [scriptStatements, Text.split_intercalate_concat (by decide) hclear hlast, List.map_append,
    List.map_singleton]
  -- All pieces but the last one are solid and free of semicolons, so that trimming leaves them.
  congr 1
  conv => rhs; rw [← List.map_id pieces]
  refine List.map_congr_left fun p hp => ?_
  rw [Text.trim_of_solid (h p hp).begins (h p hp).ends, Text.trimEndOf_of_notMem (h p hp).semicolon]
  rfl

/-- A text of several statements is read as a script. -/
theorem contains_intercalate {p : List Char} (hp : IsPiece p) {pieces : List (List Char)}
    (hne : pieces ≠ []) :
    Text.contains ";\n".toList (";\n".toList.intercalate (p :: pieces)) = true := by
  rw [List.intercalate_cons_of_ne_nil hne]
  exact Text.contains_of_cut? (Text.cut?_clear (Text.clear_of_notMem hp.semicolon) _)

/-- A script begins like its first statement and ends like its last one. -/
theorem solid_intercalate {p : List Char} (hp : IsPiece p) (pieces : List (List Char))
    {last : List Char} (hlast : Text.endsSolid last = true) :
    Text.trim (";\n".toList.intercalate (p :: pieces ++ [last])) =
      ";\n".toList.intercalate (p :: pieces ++ [last]) := by
  refine Text.trim_of_solid ?_ ?_
  · rw [List.cons_append, Text.intercalate_cons_eq]
    exact Text.beginsSolid_append hp.begins _
  · rw [Text.intercalate_concat (List.cons_ne_nil p pieces)]
    exact Text.endsSolid_append _ hlast

/-! ## Running statements -/

variable {s s' : MemoryStore}

/-- A text is run as the statement that is read from it. -/
theorem run_of_read? {sql : String} {text : List Char} {statement : MemoryStatement}
    (htrim : Text.trim sql.toList = text)
    (hread : MemoryStatement.read? s.dialect s.table.name.toList text = some statement)
    (values : List Value) :
    (MemoryStore.run sql values).run s = (runStatement text values statement).run s := by
  rw [MemoryStore.run, htrim, run_bind_ok (run_get s), hread]
  rfl

/-- A store understands the dialect of a table and has a table of its name, whatever columns and rows
that one has. -/
structure Answers (s : MemoryStore) (t : Table) : Prop where
  dialect : s.dialect = t.dialect
  name : s.table.name = t.qualifiedName

theorem Serves.answers {t : Table} (hs : s.Serves t) : s.Answers t :=
  ⟨hs.dialect, hs.table.name⟩

/-- A store that answers for a table runs a text as the statement on this table that is read from it. -/
theorem Answers.run_of_read? {t : Table} (hs : s.Answers t) {sql : String} {text : List Char}
    {statement : MemoryStatement} (htrim : Text.trim sql.toList = text)
    (hread : MemoryStatement.read? t.dialect t.qualifiedName.toList text = some statement)
    (values : List Value) :
    (MemoryStore.run sql values).run s = (runStatement text values statement).run s := by
  rw [← hs.dialect, ← hs.name] at hread
  exact MemoryStore.run_of_read? htrim hread values

theorem Serves.run_of_read? {t : Table} (hs : s.Serves t) {sql : String} {text : List Char}
    {statement : MemoryStatement} (htrim : Text.trim sql.toList = text)
    (hread : MemoryStatement.read? t.dialect t.qualifiedName.toList text = some statement)
    (values : List Value) :
    (MemoryStore.run sql values).run s = (runStatement text values statement).run s :=
  hs.answers.run_of_read? htrim hread values

/-- The beginnings of the statements that change no table. -/
def scriptWords : List (List Char) :=
  ["SET ".toList, "DECLARE ".toList, "SELECT @".toList, "WITH ".toList]

/-- A statement that begins like none of these changes the tables, and its rows are counted. -/
theorem run_script_staged {d : Dialect} (statement : Statement) {rest : Statement} {w : String}
    {count : Nat} (hstatement : statement = .word w :: rest)
    (hwords : ∀ s, (w.toList ++ s).isEmpty = false ∧
      (scriptWords.any (Text.startsWith · (w.toList ++ s))) = false)
    (hrun : (runStaged (statement.chars d)).run s = (.ok count, s')) (p : ScriptProgress) :
    (runScriptStatement p (statement.chars d)).run s = (.ok { p with rowCount := count }, s') := by
  obtain ⟨hempty, hwords⟩ := hwords (rest.chars d)
  rw [hstatement, Statement.chars_word] at hrun ⊢
  simp only [scriptWords, List.any_cons, List.any_nil, Bool.or_false, Bool.or_eq_false_iff] at hwords
  obtain ⟨hset, hdeclare, hselect, hwith⟩ := hwords
  have hnone {v text : List Char} (h : Text.startsWith v text = false) : Text.after? v text = none := by
    simpa [Text.startsWith] using h
  -- The text does not begin with `SET `, still less with a longer word of another statement.
  have hkeep : Text.after? "SET @".toList (w.toList ++ rest.chars d) = none := by
    have hword : "SET @".toList = "SET ".toList ++ "@".toList := by decide
    rw [hword]
    exact Text.after?_append_eq_none (hnone hset) _
  have hquiet : (w.toList ++ rest.chars d == "SET NOCOUNT ON".toList) = false := by
    rw [beq_eq_false_iff_ne]
    intro htext
    rw [htext] at hset
    exact absurd hset (by decide)
  simp only [runScriptStatement, hempty, hquiet, Bool.or_false, Bool.false_eq_true, if_false,
    hnone hdeclare, hkeep, hnone hselect, hnone hwith]
  rw [run_bind_ok hrun]
  rfl

/-- Asking for no counts does nothing. -/
theorem run_quiet (d : Dialect) (p : ScriptProgress) (s : MemoryStore) :
    (runScriptStatement p (Statement.chars d [.word "SET NOCOUNT ON"])).run s = (.ok p, s) := by
  have hquiet : ("SET NOCOUNT ON".toList == "SET NOCOUNT ON".toList) = true := by decide
  rw [Statement.chars_word, Statement.chars_nil, List.append_nil]
  simp only [runScriptStatement, hquiet, Bool.or_true, if_true]
  rfl

/-- A declaration declares its variables one after the other. -/
theorem run_script_declare {list : List Char} {p p' : ScriptProgress}
    (h : (Text.split ", ".toList list).foldlM
      (ScriptProgress.declare ("DECLARE ".toList ++ list)) p = .ok p') :
    (runScriptStatement p ("DECLARE ".toList ++ list)).run s = (.ok p', s) := by
  have hempty : ("DECLARE ".toList ++ list).isEmpty = false := rfl
  have hquiet : (("DECLARE ".toList ++ list) == "SET NOCOUNT ON".toList) = false := rfl
  simp only [runScriptStatement, hempty, hquiet, Bool.or_false, Bool.false_eq_true, if_false,
    Text.after?_append, h]
  rfl

theorem run_script_keep {rest : List Char} {p p' : ScriptProgress}
    (h : p.keepRowCount ("SET @".toList ++ rest) rest = .ok p') :
    (runScriptStatement p ("SET @".toList ++ rest)).run s = (.ok p', s) := by
  have hempty : ("SET @".toList ++ rest).isEmpty = false := rfl
  have hquiet : ("SET @".toList ++ rest == "SET NOCOUNT ON".toList) = false := rfl
  have hdeclare : Text.after? "DECLARE ".toList ("SET @".toList ++ rest) = none := rfl
  simp only [runScriptStatement, hempty, hquiet, Bool.or_false, Bool.false_eq_true, if_false,
    hdeclare, Text.after?_append, h]
  rfl

theorem run_script_query {rest : List Char} {p p' : ScriptProgress}
    (h : p.answerVariables s.dialect ("SELECT @".toList ++ rest) ('@' :: rest) = .ok p') :
    (runScriptStatement p ("SELECT @".toList ++ rest)).run s = (.ok p', s) := by
  have hempty : ("SELECT @".toList ++ rest).isEmpty = false := rfl
  have hquiet : ("SELECT @".toList ++ rest == "SET NOCOUNT ON".toList) = false := rfl
  have hdeclare : Text.after? "DECLARE ".toList ("SELECT @".toList ++ rest) = none := rfl
  have hset : Text.after? "SET @".toList ("SELECT @".toList ++ rest) = none := rfl
  simp only [runScriptStatement, hempty, hquiet, Bool.or_false, Bool.false_eq_true, if_false,
    hdeclare, hset, Text.after?_append]
  rw [run_bind_ok (run_get s)]
  exact run_ofExcept_ok h s

/-- A statement with parts answers the row of its counts. -/
theorem run_script_parts {body : List Char} {row : Row} (p : ScriptProgress)
    (h : (runParts body).run s = (.ok row, s')) :
    (runScriptStatement p ("WITH ".toList ++ body)).run s = (.ok { p with answer := some row }, s') := by
  have hempty : ("WITH ".toList ++ body).isEmpty = false := rfl
  have hquiet : ("WITH ".toList ++ body == "SET NOCOUNT ON".toList) = false := rfl
  have hdeclare : Text.after? "DECLARE ".toList ("WITH ".toList ++ body) = none := rfl
  have hset : Text.after? "SET @".toList ("WITH ".toList ++ body) = none := rfl
  have hselect : Text.after? "SELECT @".toList ("WITH ".toList ++ body) = none := rfl
  simp only [runScriptStatement, hempty, hquiet, Bool.or_false, Bool.false_eq_true, if_false,
    hdeclare, hset, hselect, Text.after?_append]
  rw [run_bind_ok h]
  rfl

/-- The number of the last rows is kept in a variable that was declared. -/
theorem keepRowCount_declared {name : List Char} {old : Int} (hname : Text.Clear " = ".toList name)
    {p : ScriptProgress} (hold : p.counters.lookup (String.ofList ('@' :: name)) = some old)
    (statement : List Char) :
    p.keepRowCount statement (name ++ " = @@ROWCOUNT".toList) =
      .ok { p with counters := (String.ofList ('@' :: name), p.rowCount) :: p.counters } := by
  have htext : " = @@ROWCOUNT".toList = " = ".toList ++ "@@ROWCOUNT".toList := by decide
  have hcut := Text.cut?_clear hname "@@ROWCOUNT".toList
  simp only [ScriptProgress.keepRowCount, htext, ← List.append_assoc, hcut, readOr, bind,
    Except.bind, hold]
  rfl

theorem run_foldlM_cons {text : List Char} {rest : List (List Char)} {p p' : ScriptProgress}
    (h : (runScriptStatement p text).run s = (.ok p', s')) :
    ((text :: rest).foldlM runScriptStatement p).run s =
      (rest.foldlM runScriptStatement p').run s' := by
  rw [List.foldlM_cons, run_bind_ok h]

end MemoryStore

end Tablewright
