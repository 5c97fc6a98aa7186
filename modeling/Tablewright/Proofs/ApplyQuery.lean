import Tablewright.Proofs.ApplyTexts

/-!
# The apply query of PostgreSQL

The statement with parts: each part changes the table or makes rows that are added when all parts have
run, so that the update and the deletion do not see the new rows. The counts of the parts are read
from the list behind them.

## Key results

- `run_insertPart`, `run_stagedPart`: one part
- `run_parts`: all parts and the counts
-/

namespace Tablewright.MemoryStore

open Sql

variable {s s' : MemoryStore} {t : Table} {changes : List (ItemChange (List Value))}

/-! ## Parentheses -/

theorem balanced_chars {statement : Statement} (d : Dialect) (hopen : statement.lacks '(' = true)
    (hclose : statement.lacks ')' = true) : Balanced (statement.chars d) :=
  balanced_of_notMem (notMem_chars (by decide) hopen) (notMem_chars (by decide) hclose)

theorem balanced_applyInsert (hp : t.Plain) : Balanced (t.applyInsert.chars t.dialect) := by
  have hsub : ∀ c ∈ t.insertColumns, c ∈ t.columns := fun c hc => (Table.mem_insertColumns.1 hc).1
  have hhead {x : Char} (hx : x ∈ rareChars) :
      Statement.lacks x (.word "INSERT INTO " :: t.target ++ [.word " "]) = true := by
    simp (disch := decide) only [lacks_append, lacks_cons, lacks_nil, lacks_word hx,
      lacks_target hp.named hx, Bool.and_self]
  have htail {x : Char} (hx : x ∈ rareChars) : Statement.lacks x (.word " SELECT " ::
      (Table.columnListOf "s" t.insertColumns ++ .word " FROM " :: .name t.stagingName ::
        .word " AS s WHERE " :: Table.changeFilter .insert)) = true := by
    simp (disch := decide) only [lacks_append, lacks_cons, lacks_word hx, lacks_stagingName hp,
      lacks_columnListOf hp hx hsub, lacks_changeFilter hx, Bool.and_self]
  have hbalanced := balanced_append (balanced_append
    (balanced_chars t.dialect (hhead (by decide)) (hhead (by decide)))
    (balanced_parens (balanced_columnList hp.named hsub)))
    (balanced_chars t.dialect (htail (by decide)) (htail (by decide)))
  have hblank : " ".toList = [' '] := by decide
  rw [chars_applyInsert, insertSource]
  simpa only [List.cons_append, Statement.chars_word, Statement.chars_append, chars_target,
    chars_stagingName, Statement.chars_nil, hblank, List.append_assoc, List.nil_append,
    List.append_nil] using hbalanced

/-! ## One part -/

theorem chars_part (name : String) (inner : Statement) (d : Dialect) :
    (Table.part name inner).chars d =
      name.toList ++ " AS ".toList ++ '(' :: (inner.chars d ++ " RETURNING 1".toList ++ ')' :: []) := by
  have hopen : " AS (".toList = " AS ".toList ++ ['('] := by decide
  have hclose : " RETURNING 1)".toList = " RETURNING 1".toList ++ [')'] := by decide
  rw [Table.part, List.cons_append, Statement.chars_word, Statement.chars_append,
    Statement.chars_word, Statement.chars_nil, List.append_nil, String.toList_append, hopen, hclose]
  simp

/-- The names of the parts. -/
def partNames : List String := ["ins", "upd", "del"]

/-- A part is its name and its statement, an insert or another one. -/
theorem run_part (hs : s.Serves t) {name : String} (hname : name ∈ partNames) {inner : Statement}
    (hb : Balanced (inner.chars t.dialect)) (done : PartCounts) :
    (runPart done ((Table.part name inner).chars t.dialect)).run s =
      (match Text.after? ("INSERT INTO ".toList ++ t.qualifiedName.toList ++ [' '])
          (inner.chars t.dialect) with
        | some insert => do
          let rows ← newStagedRows insert
          return { counts := (name, rows.length) :: done.counts, pending := done.pending ++ rows }
        | none => do
          let count ← runStaged (inner.chars t.dialect)
          return { done with counts := (name, count) :: done.counts } :
        MemoryOperation PartCounts).run s := by
  have hplain : (partNames.all fun name => decide (' ' ∉ name.toList) &&
      Text.beginsSolid name.toList && Text.endsSolid name.toList) = true := by decide
  have hchars := List.all_eq_true.1 hplain name hname
  rw [Bool.and_eq_true, Bool.and_eq_true, decide_eq_true_eq] at hchars
  -- The name is cut off in front of the parenthesis, and nothing has to be trimmed from it.
  have htrim := Text.trim_of_solid hchars.1.2 hchars.2
  have hclear : Text.Clear " AS ".toList name.toList := Text.clear_of_notMem hchars.1.1
  have hcut := Text.cut?_clear hclear ('(' :: (inner.chars t.dialect ++ " RETURNING 1".toList ++ ')' :: []))
  -- What stands in the parentheses is the statement with `RETURNING 1` behind it.
  have hreturning : Balanced " RETURNING 1".toList :=
    balanced_of_notMem (by decide) (by decide)
  have hinner := parenthesized_balanced (balanced_append hb hreturning) []
  have hbefore := Text.before?_append (inner.chars t.dialect) " RETURNING 1".toList
  rw [chars_part, ← hs.table.name]
  rw [runPart, run_bind_ok (run_ofExcept_ok (by rw [hcut]; rfl) s)]
  simp only [hinner]
  rw [run_bind_ok (run_ofExcept_ok (by rw [hbefore]; rfl) s), htrim, String.ofList_toList]
  exact (run_bind_ok (run_get s) _).trans rfl

/-- The part that inserts leaves its rows to be added at the end. -/
theorem run_insertPart (hp : t.Plain) (hfit : FitsColumns t changes) (hs : s.Stages t changes)
    (done : PartCounts) :
    (runPart done ((Table.part "ins" t.applyInsert).chars t.dialect)).run s =
      (.ok { counts := ("ins", (recordsOf .insert changes).length) :: done.counts
             pending := done.pending ++ t.newRecords s.table.nextIdentity (recordsOf .insert changes) },
        s.holding s.table.rows
          (t.nextAfter s.table.nextIdentity (recordsOf .insert changes).length)) := by
  have hlength : (t.newRecords s.table.nextIdentity (recordsOf .insert changes)).length =
      (recordsOf .insert changes).length := List.length_mapIdx
  have hnew := run_newStagedRows hp hfit hs.toServes hs.staged
  -- The part is known for an insert by the name of the table in it.
  have hafter : Text.after? ("INSERT INTO ".toList ++ t.qualifiedName.toList ++ [' '])
      (t.applyInsert.chars t.dialect) = some (insertSource t) := by
    rw [chars_applyInsert, Text.after?_append]
  rw [run_part hs.toServes (by decide) (balanced_applyInsert hp), hafter]
  show (newStagedRows (insertSource t) >>= _).run s = _
  rw [run_bind_ok hnew, hlength]
  rfl

/-- The other parts change the table at once. -/
theorem run_stagedPart (hs : s.Serves t) {name : String} (hname : name ∈ partNames)
    (inner : Statement) {rest : Statement} {w : String} (hinner : inner = .word w :: rest)
    (hinsert : ∀ r, Text.after? "INSERT INTO ".toList (w.toList ++ r) = none)
    (hb : Balanced (inner.chars t.dialect)) {count : Nat}
    (hrun : (runStaged (inner.chars t.dialect)).run s = (.ok count, s')) (done : PartCounts) :
    (runPart done ((Table.part name inner).chars t.dialect)).run s =
      (.ok { done with counts := (name, count) :: done.counts }, s') := by
  have hafter : Text.after? ("INSERT INTO ".toList ++ t.qualifiedName.toList ++ [' '])
      (inner.chars t.dialect) = none := by
    rw [hinner, Statement.chars_word, List.append_assoc]
    exact Text.after?_append_eq_none (hinsert _) _
  rw [run_part hs hname hb, hafter]
  show (runStaged (inner.chars t.dialect) >>= _).run s = _
  rw [run_bind_ok hrun]
  rfl

/-! ## Between the parts -/

/-- Each part has one of the names, and no semicolon and no end of line in its statement. -/
theorem mem_parts (hp : t.Plain) {p : Statement} (hm : p ∈ t.parts) :
    ∃ name ∈ partNames, ∃ inner : Statement, p = Table.part name inner ∧
      ∀ x ∈ lineChars, inner.lacks x = true := by
  simp only [Table.parts, List.cons_append, List.mem_cons, List.mem_append, List.not_mem_nil,
    or_false, List.mem_ite_nil_left] at hm
  rcases hm with rfl | ⟨-, rfl⟩ | rfl
  · exact ⟨"ins", by decide, _, rfl, fun x hx => lacks_applyInsert hp hx⟩
  · exact ⟨"upd", by decide, _, rfl,
      fun x hx => lacks_fromUpdate hp (mem_rareChars_of_mem_lineChars hx)⟩
  · exact ⟨"del", by decide, _, rfl,
      fun x hx => lacks_usingDelete hp (mem_rareChars_of_mem_lineChars hx)⟩

/-- A part has no end of line in it, and ends with a parenthesis. -/
theorem part_text (hp : t.Plain) {p : Statement} (hm : p ∈ t.parts) (d : Dialect) :
    ∃ name ∈ partNames, ∃ s, '\n' ∉ s ∧
      p.chars d = name.toList ++ " AS ".toList ++ '(' :: (s ++ [')']) := by
  obtain ⟨name, hname, inner, rfl, hlacks⟩ := mem_parts hp hm
  refine ⟨name, hname, inner.chars d ++ " RETURNING 1".toList, ?_, chars_part name inner d⟩
  intro hm
  rcases List.mem_append.1 hm with hm | hm
  · exact notMem_chars (by decide) (hlacks '\n' (by decide)) hm
  · exact absurd hm (by decide)

theorem newline_notMem_part {name : String} (hname : name ∈ partNames) {s : List Char}
    (hs : '\n' ∉ s) : '\n' ∉ name.toList ++ " AS ".toList ++ '(' :: s := by
  have hnames : (partNames.all fun name => decide ('\n' ∉ name.toList ++ " AS ".toList)) = true := by
    decide
  have hlead := of_decide_eq_true (List.all_eq_true.1 hnames name hname)
  intro hm
  rcases List.mem_append.1 hm with hm | hm
  · exact hlead hm
  · rcases List.mem_cons.1 hm with hm | hm
    · exact absurd hm (by decide)
    · exact hs hm

/-- The parts are told apart by the ends of lines behind them. -/
theorem split_parts (hp : t.Plain) (d : Dialect) :
    Text.split ",\n".toList (",\n".toList.intercalate (t.parts.map (Statement.chars d))) =
      t.parts.map (Statement.chars d) := by
  refine Text.split_intercalate (by decide) (by simp [Table.parts]) fun p hm => ?_
  obtain ⟨part, hpart, rfl⟩ := List.mem_map.1 hm
  obtain ⟨name, hname, s, hs, htext⟩ := part_text hp hpart d
  have hbody := newline_notMem_part hname hs
  rw [htext, ← List.cons_append, ← List.append_assoc]
  exact Text.clear_barrier (by decide) (Text.contains_of_notMem (by decide) hbody)

/-- The list of counts begins at the first end of line with a query behind it. -/
theorem clear_parts (hp : t.Plain) (d : Dialect) :
    Text.Clear "\nSELECT ".toList (",\n".toList.intercalate (t.parts.map (Statement.chars d))) := by
  have hnames : (partNames.all fun name => !Text.contains "\nSELECT ".toList
      (",\n".toList ++ (name.toList ++ " AS ".toList))) = true := by decide
  -- The first part stands alone, each other one behind a comma and an end of line.
  refine Text.clear_intercalate (fun p hm => ?_) fun p hm => ?_
  · obtain ⟨part, hpart, rfl⟩ := List.mem_map.1 hm
    obtain ⟨name, hname, s, hs, htext⟩ := part_text hp hpart d
    have hs' : '\n' ∉ s ++ [')'] := by simpa using hs
    rw [htext]
    exact Text.clear_of_notMem (newline_notMem_part hname hs')
  · obtain ⟨part, hpart, rfl⟩ := List.mem_map.1 hm
    obtain ⟨name, hname, s, hs, htext⟩ := part_text hp hpart d
    have hs' : '\n' ∉ s ++ [')'] := by simpa using hs
    -- The parenthesis ends what could begin like the query behind the parts.
    have hlead : Text.Clear "\nSELECT ".toList
        (",\n".toList ++ (name.toList ++ " AS ".toList) ++ ['(']) :=
      Text.clear_barrier (by decide) (by simpa using List.all_eq_true.1 hnames name hname)
    have hrest : Text.Clear "\nSELECT ".toList (s ++ [')']) := Text.clear_of_notMem hs'
    rw [htext]
    simpa using Text.clear_append hlead hrest

/-! ## The counts -/

/-- An item of the list counts the rows of a part under a label. -/
theorem readPartCount_part (part label : String) {item : List Char} (expression plain : List Char)
    {counts : List (String × Nat)} {n : Nat}
    (hcut : Text.cutLast? " AS ".toList item = some (expression, (Dialect.postgres.quote label).toList))
    (hplain : (Text.before? "::BIGINT".toList expression).getD expression = plain)
    (hpart : (Text.after? "(SELECT COUNT(*) FROM ".toList plain).bind (Text.before? [')']) =
      some part.toList)
    (hcount : counts.lookup part = some n) :
    readPartCount .postgres counts item = .ok (label, (n : Int)) := by
  simp only [readPartCount, hcut, readOr, bind, Except.bind, partValue, hplain, hpart,
    String.ofList_toList, hcount, nameIn_quote]
  rfl

/-- An item of the list gives a number under a label. -/
theorem readPartCount_number (label : String) {item : List Char} (expression plain : List Char)
    {counts : List (String × Nat)} {n : Int}
    (hcut : Text.cutLast? " AS ".toList item = some (expression, (Dialect.postgres.quote label).toList))
    (hplain : (Text.before? "::BIGINT".toList expression).getD expression = plain)
    (hpart : (Text.after? "(SELECT COUNT(*) FROM ".toList plain).bind (Text.before? [')']) = none)
    (hnumber : readInt64? plain = some n) :
    readPartCount .postgres counts item = .ok (label, n) := by
  simp only [readPartCount, hcut, readOr, bind, Except.bind, partValue, hplain, hpart, hnumber,
    nameIn_quote]
  rfl

/-- The items of the list, the one of the updates between the others. -/
def countItems (updated : String) : List (List Char) :=
  ["(SELECT COUNT(*) FROM ins) AS \"inserted\"".toList, updated.toList,
    "(SELECT COUNT(*) FROM del) AS \"deleted\"".toList]

/-- Without update columns no part updates rows, and the list gives zero for it. -/
def updatedItem (t : Table) : String :=
  if t.updateColumns.isEmpty then "0::BIGINT AS \"updated\""
  else "(SELECT COUNT(*) FROM upd)::BIGINT AS \"updated\""

theorem split_partCounts (t : Table) :
    Text.split ", ".toList (t.partCounts.chars .postgres) = countItems (updatedItem t) := by
  have htext : t.partCounts.chars .postgres = ", ".toList.intercalate (countItems (updatedItem t)) := by
    rw [Table.partCounts, updatedItem]
    split
    · decide
    · decide +kernel
  -- No comma stands inside an item, whichever of the two the table has.
  have hcomma : ∀ item ∈ countItems (updatedItem t), ',' ∉ item := by
    rw [updatedItem]
    split
    · decide
    · decide
  rw [htext]
  exact Text.split_of_notMem (a := ',') (by decide) (List.cons_ne_nil _ _) hcomma

theorem read_countItems {counts : List (String × Nat)} {a c : Nat} {b : Int} {updated : String}
    (ha : counts.lookup "ins" = some a) (hc : counts.lookup "del" = some c)
    (hb : readPartCount .postgres counts updated.toList = .ok ("updated", b)) :
    (countItems updated).mapM (readPartCount .postgres counts) =
      .ok [("inserted", (a : Int)), ("updated", b), ("deleted", (c : Int))] := by
  have hinserted : readPartCount .postgres counts
      "(SELECT COUNT(*) FROM ins) AS \"inserted\"".toList = .ok ("inserted", (a : Int)) :=
    readPartCount_part "ins" "inserted" "(SELECT COUNT(*) FROM ins)".toList
      "(SELECT COUNT(*) FROM ins)".toList (by decide) (by decide) (by decide) ha
  have hdeleted : readPartCount .postgres counts
      "(SELECT COUNT(*) FROM del) AS \"deleted\"".toList = .ok ("deleted", (c : Int)) :=
    readPartCount_part "del" "deleted" "(SELECT COUNT(*) FROM del)".toList
      "(SELECT COUNT(*) FROM del)".toList (by decide) (by decide) (by decide) hc
  simp only [countItems, List.mapM_cons, List.mapM_nil, hinserted, hb, hdeleted]
  rfl

/-- The counts of the parts that ran. -/
theorem read_ranCounts (t : Table) (a b c : Nat) :
    (Text.split ", ".toList (t.partCounts.chars .postgres)).mapM (readPartCount .postgres
        (("del", c) :: if t.updateColumns.isEmpty then [("ins", a)] else [("upd", b), ("ins", a)])) =
      .ok [("inserted", (a : Int)), ("updated", ((if t.updateColumns.isEmpty then 0 else b : Nat) : Int)),
        ("deleted", (c : Int))] := by
  rw [split_partCounts, updatedItem]
  by_cases hempty : t.updateColumns.isEmpty = true
  · rw [if_pos hempty, if_pos hempty, if_pos hempty]
    refine read_countItems rfl rfl ?_
    exact readPartCount_number "updated" "0::BIGINT".toList "0".toList (by decide) (by decide)
      (by decide) (by decide)
  · rw [if_neg hempty, if_neg hempty, if_neg hempty]
    refine read_countItems rfl rfl ?_
    exact readPartCount_part "upd" "updated" "(SELECT COUNT(*) FROM upd)::BIGINT".toList
      "(SELECT COUNT(*) FROM upd)".toList (by decide) (by decide) (by decide) rfl

/-! ## All parts -/

/-- Behind the insert, the update and the deletion change the rows of the table. -/
theorem run_changeParts (hp : t.Plain) (hfit : FitsColumns t changes) (hs : s.Stages t changes)
    (done : PartCounts) :
    ((((if t.updateColumns.isEmpty then [] else [Table.part "upd" t.fromUpdate]) ++
        [Table.part "del" t.usingDelete]).map (Statement.chars t.dialect)).foldlM runPart done).run s =
      (.ok { done with counts :=
          ("del", (t.withUpdates (recordsOf .update changes) s.table.rows).countP
            (t.hasKeyIn (recordsOf .delete changes))) ::
          if t.updateColumns.isEmpty then done.counts
          else ("upd", s.table.rows.countP (t.hasKeyIn (recordsOf .update changes))) :: done.counts },
        s.holding (t.withoutDeleted (recordsOf .delete changes)
          (t.withUpdates (recordsOf .update changes) s.table.rows)) s.table.nextIdentity) := by
  have hdel : "del" ∈ partNames := by decide
  have hupd : "upd" ∈ partNames := by decide
  have hdelete (rows : List (List Value)) (done : PartCounts) :=
    run_stagedPart (hs.holding rows s.table.nextIdentity).toServes hdel t.usingDelete rfl
      (fun _ => rfl)
      (balanced_chars t.dialect (lacks_usingDelete hp (by decide)) (lacks_usingDelete hp (by decide)))
      (run_usingDelete hp hfit (hs.holding rows s.table.nextIdentity)) done
  -- Without update columns there is no such part, and `withUpdates` changes no row either.
  by_cases hempty : t.updateColumns.isEmpty = true
  · rw [if_pos hempty, if_pos hempty, Table.withUpdates_of_isEmpty hempty, List.nil_append,
      List.map_cons, List.map_nil, List.foldlM_cons]
    exact run_bind_ok (hdelete s.table.rows done) _
  · have hupdate := run_stagedPart hs.toServes hupd t.fromUpdate rfl (fun _ => rfl)
      (balanced_chars t.dialect (lacks_fromUpdate hp (by decide)) (lacks_fromUpdate hp (by decide)))
      (run_fromUpdate hp hfit hs fun h => hempty (by rw [h]; rfl)) done
    rw [if_neg hempty, if_neg hempty, List.cons_append, List.nil_append, List.map_cons,
      List.map_cons, List.map_nil, List.foldlM_cons, run_bind_ok hupdate, List.foldlM_cons,
      run_bind_ok (hdelete _ _)]
    rfl

/-- The query answers the counts of its parts and adds the new rows behind the old ones. -/
theorem run_parts (hp : t.Plain) (hfit : FitsColumns t changes) (hs : s.Stages t changes)
    (hd : t.dialect = .postgres) :
    (runParts (",\n".toList.intercalate (t.parts.map (Statement.chars t.dialect)) ++
        "\nSELECT ".toList ++ t.partCounts.chars t.dialect)).run s =
      (.ok (t.synced s.table changes).1.row, { s with table := (t.synced s.table changes).2 }) := by
  have hcut := Text.cut?_clear (clear_parts hp t.dialect) (t.partCounts.chars t.dialect)
  have hinsert := run_insertPart hp hfit hs {}
  have hafter := hs.holding s.table.rows
    (t.nextAfter s.table.nextIdentity (recordsOf .insert changes).length)
  have hchange := run_changeParts hp hfit hafter
  have hlength : (t.newRecords s.table.nextIdentity (recordsOf .insert changes)).length =
      (recordsOf .insert changes).length := List.length_mapIdx
  simp only [holding_rows, holding_nextIdentity, holding_holding] at hchange
  rw [runParts, run_bind_ok (run_ofExcept_ok (by rw [hcut]; rfl) s)]
  -- The insert comes first and is kept back; its rows are added when the others have run.
  simp only [split_parts hp]
  rw [Table.parts, List.cons_append, List.map_cons, List.foldlM_cons, bind_assoc,
    run_bind_ok hinsert, run_bind_ok (hchange _), addRows, run_bind_ok (run_modify _ _),
    run_bind_ok (run_get _)]
  have hdialect : s.dialect = .postgres := hs.dialect.trans hd
  have hcounts := read_ranCounts t (recordsOf .insert changes).length
    (s.table.rows.countP (t.hasKeyIn (recordsOf .update changes)))
    ((t.withUpdates (recordsOf .update changes) s.table.rows).countP
      (t.hasKeyIn (recordsOf .delete changes)))
  simp only [holding, hdialect, hd]
  rw [run_bind_ok (run_ofExcept_ok hcounts _), Table.synced, hd, hlength]
  rfl

end Tablewright.MemoryStore
