import Mathlib.Data.List.Forall2
import Tablewright.Proofs.Records
import Tablewright.Proofs.StatementText
import Tablewright.Table.Texts

/-!
# Keyed statements

What the statements on a table with a key do with it. Whatever updates or deletes rows compares each
column of the key, in the text that follows, before anything else is changed. Which statements there are
depends only on the key and on the columns beside it.

## Key results

- `guarded_apply`: the script that applies staged changes, statement by statement
- `HasKey.keyedStatements`: all statements on a table with a key
-/

namespace Tablewright

open Sql

/-- A condition on a column. -/
inductive Column.IsCompared (c : Column) : Statement → Prop
  /-- It is equal to its parameter. -/
  | parameter (position : Nat) :
    c.IsCompared [.name c.name, .word " = ", .parameter c.parameterName position]
  /-- It is equal to the column of the same name in another table. -/
  | column (left right : String) :
    c.IsCompared [.word (left ++ "."), .name c.name, .word (" = " ++ right ++ "."), .name c.name]
  /-- It is one of the values that follow. -/
  | values : c.IsCompared [.name c.name, .word " IN "]

namespace Sql

/-- A word of the given kind. -/
def Fragment.isWord (kind : String → Bool) : Fragment → Bool
  | .word w => kind w
  | _ => false

/-- A word that has rows updated or deleted. -/
def changesRows (w : String) : Bool :=
  Text.contains "UPDATE".toList w.toList || Text.contains "DELETE".toList w.toList

/-- A word that begins another change, or ends a statement or a query within one. -/
def breaksOff (w : String) : Bool :=
  changesRows w || w.toList.any fun c => c == ';' || c == ')'

namespace Statement

variable {s t rest : Statement} {columns : List Column} {kind : String → Bool}

/-- No word is of the given kind. -/
def Avoids (kind : String → Bool) (s : Statement) : Prop := ∀ f ∈ s, f.isWord kind = false

/-- There is a condition next, a `WHERE` or an `ON` of the same statement, that compares each of the
columns. More may be asked for behind it, but no less. -/
def RestrictedBy (rest : Statement) (columns : List Column) : Prop :=
  ∃ front lead conditions back,
    rest = front ++ .word lead :: (joined " AND " conditions ++ back) ∧ Avoids breaksOff front ∧
      (" WHERE ".toList <:+ lead.toList ∨ " ON ".toList <:+ lead.toList) ∧
      List.Forall₂ Column.IsCompared columns conditions ∧
      ∀ f ∈ back.head?, ∃ w, f = .word w ∧
        (" WHERE ".toList <+: w.toList ∨ " AND ".toList <+: w.toList)

/-- Rows are updated and deleted only where a condition compares each of the columns. -/
def Guarded (columns : List Column) : Statement → Prop
  | [] => True
  | f :: rest => (f.isWord changesRows = true → RestrictedBy rest columns) ∧ Guarded columns rest

/-! ## Statements without some words -/

theorem avoids_nil : Avoids kind [] := nofun

theorem avoids_cons {f : Fragment} : Avoids kind (f :: s) ↔ f.isWord kind = false ∧ Avoids kind s :=
  List.forall_mem_cons

theorem avoids_word {w : String} (h : kind w = false) : Avoids kind (.word w :: s) ↔ Avoids kind s :=
  avoids_cons.trans (and_iff_right h)

theorem avoids_name {n : String} : Avoids kind (.name n :: s) ↔ Avoids kind s :=
  avoids_cons.trans (and_iff_right rfl)

theorem avoids_parameter {n : String} {i : Nat} : Avoids kind (.parameter n i :: s) ↔ Avoids kind s :=
  avoids_cons.trans (and_iff_right rfl)

theorem avoids_append : Avoids kind (s ++ t) ↔ Avoids kind s ∧ Avoids kind t :=
  List.forall_mem_append

theorem avoids_joined {between : String} {parts : List Statement} (hbetween : kind between = false)
    (h : ∀ p ∈ parts, Avoids kind p) : Avoids kind (joined between parts) := by
  cases parts with
  | nil => exact avoids_nil
  | cons p parts =>
    obtain ⟨hp, hparts⟩ := List.forall_mem_cons.1 h
    rw [joined_cons, avoids_append]
    refine ⟨hp, fun f hf => ?_⟩
    obtain ⟨q, hq, hf⟩ := List.mem_flatMap.1 hf
    rcases List.mem_cons.1 hf with rfl | hf
    · exact hbetween
    · exact hparts q hq f hf

theorem Avoids.ne_word {w : String} (h : Avoids (· == w) s) : ∀ f ∈ s, (f != .word w) = true := by
  intro f hf
  cases f with
  | word w' => simpa [Fragment.isWord] using h _ hf
  | _ => rfl

/-- What does not break off changes no rows. -/
theorem Avoids.quiet (h : Avoids breaksOff s) : Avoids changesRows s := by
  intro f hf
  have hbreaks := h f hf
  cases f with
  | word w => exact (Bool.or_eq_false_iff.1 hbreaks).1
  | _ => rfl

/-! ## Guarded statements -/

theorem guarded_append_of_quiet (hs : Avoids changesRows s) (h : Guarded columns rest) :
    Guarded columns (s ++ rest) := by
  induction s with
  | nil => exact h
  | cons f s ih =>
    obtain ⟨hf, hs⟩ := avoids_cons.1 hs
    exact ⟨fun hchanges => absurd hchanges (by simp [hf]), ih hs⟩

theorem guarded_of_quiet (hs : Avoids changesRows s) : Guarded columns s :=
  List.append_nil s ▸ guarded_append_of_quiet hs trivial

/-- A change is guarded by the condition behind it. -/
theorem guarded_change {w : String} (lead : String) (front back : Statement)
    (conditions : List Statement)
    (hrest : rest = front ++ .word lead :: (joined " AND " conditions ++ back))
    (hfront : Avoids breaksOff front)
    (hlead : " WHERE ".toList <:+ lead.toList ∨ " ON ".toList <:+ lead.toList)
    (hquiet : changesRows lead = false)
    (hconditions : List.Forall₂ Column.IsCompared columns conditions)
    (hjoined : Avoids changesRows (joined " AND " conditions))
    (hback : ∀ f ∈ back.head?, ∃ w, f = .word w ∧
      (" WHERE ".toList <+: w.toList ∨ " AND ".toList <+: w.toList))
    (h : Guarded columns back) : Guarded columns (.word w :: rest) := by
  refine ⟨fun _ => ⟨front, lead, conditions, back, hrest, hfront, hlead, hconditions, hback⟩, ?_⟩
  rw [hrest]
  exact guarded_append_of_quiet hfront.quiet
    ⟨fun hchanges => absurd (hchanges.symm.trans hquiet) (by simp),
    guarded_append_of_quiet hjoined h⟩

end Statement

end Sql

namespace Table

open Sql.Statement

variable (t : Table)

/-! ## Parts of statements -/

theorem avoids_target : Avoids breaksOff t.target := by
  simp (disch := decide) only [target, avoids_name, avoids_word, avoids_nil]

/-- A list of names has no words but those between them. -/
theorem avoids_names {kind : String → Bool} (hbetween : kind ", " = false) (columns : List Column) :
    Avoids kind (columnList columns) := by
  refine avoids_joined hbetween (List.forall_mem_map.2 fun c _ => ?_)
  simp only [avoids_name, avoids_nil]

theorem avoids_columnList (columns : List Column) : Avoids breaksOff (columnList columns) :=
  avoids_names (by decide) columns

theorem avoids_columnListOf (columns : List Column) : Avoids breaksOff (columnListOf "s" columns) := by
  refine avoids_joined (by decide) (List.forall_mem_map.2 fun c _ => ?_)
  simp (disch := decide) only [avoids_name, avoids_word, avoids_nil]

theorem avoids_keyMatch (columns : List Column) : Avoids breaksOff (keyMatch "t" "s" columns) := by
  refine avoids_joined (by decide) (List.forall_mem_map.2 fun c _ => ?_)
  simp (disch := decide) only [avoids_name, avoids_word, avoids_nil]

theorem avoids_bindings {between : String} (hbetween : breaksOff between = false)
    (columns : List Column) (start : Nat) :
    Avoids breaksOff (joined between (bindings columns start)) := by
  refine avoids_joined hbetween (List.forall_mem_map.2 fun c _ => ?_)
  simp (disch := decide) only [avoids_name, avoids_word, avoids_parameter, avoids_nil]

theorem avoids_changeFilter (kind : ChangeKind) : Avoids breaksOff (changeFilter kind) := by
  have htag : breaksOff (" = " ++ Text.numeral kind.tag) = false := by
    cases kind <;> decide +kernel
  simp (disch := decide) only [changeFilter, avoids_name, avoids_word, avoids_word htag, avoids_nil]

theorem avoids_applyInsert : Avoids changesRows t.applyInsert := by
  simp (disch := decide) only [applyInsert, avoids_append, avoids_name, avoids_word,
    t.avoids_target.quiet, (avoids_columnList t.insertColumns).quiet,
    (avoids_columnListOf t.insertColumns).quiet, (avoids_changeFilter .insert).quiet, and_self]

theorem avoids_select : Avoids breaksOff t.select := by
  have hlist : Avoids breaksOff (joined ", " (t.columns.map fun c =>
      if Text.eqIgnoreAsciiCase c.name c.property then [Fragment.name c.name]
      else [.name c.name, .word " AS ", .name c.property])) := by
    refine avoids_joined (by decide) (List.forall_mem_map.2 fun c _ => ?_)
    split <;> simp (disch := decide) only [avoids_name, avoids_word, avoids_nil]
  simp (disch := decide) only [select, avoids_append, avoids_word, hlist, t.avoids_target, and_self]

theorem avoids_stagingIndex : Avoids changesRows t.stagingIndex := by
  rw [stagingIndex]
  cases t.dialect <;> simp (disch := decide) only [avoids_append, avoids_name, avoids_word,
    (avoids_columnList t.keyColumns).quiet, avoids_nil, and_self]

theorem compared_bindings (columns : List Column) (start : Nat) :
    List.Forall₂ Column.IsCompared columns (bindings columns start) := by
  rw [bindings, List.forall₂_map_right_iff]
  nth_rewrite 1 [← List.zipIdx_map_fst 0 columns]
  rw [List.forall₂_map_left_iff, List.forall₂_same]
  exact fun x _ => .parameter _

theorem compared_keyMatch (left right : String) (columns : List Column) :
    List.Forall₂ Column.IsCompared columns (columns.map fun c =>
      [.word (left ++ "."), .name c.name, .word (" = " ++ right ++ "."), .name c.name]) := by
  rw [List.forall₂_map_right_iff, List.forall₂_same]
  exact fun c _ => .column left right

/-! ## Whole statements -/

/-- A change to the rows with a key, given as parameters. -/
theorem guarded_keyFilter {w : String} {front : Statement} (hfront : Avoids breaksOff front)
    (start : Nat) : Guarded t.keyColumns (.word w :: (front ++ .word " WHERE " :: t.keyFilter start)) :=
  guarded_change " WHERE " front [] _ (by rw [keyFilter, List.append_nil]) hfront
    (.inl List.suffix_rfl) (by decide) (compared_bindings t.keyColumns start)
    (avoids_bindings (by decide) _ _).quiet nofun trivial

theorem guarded_update {s : Statement} (h : t.update = some s) : Guarded t.keyColumns s := by
  rw [update] at h
  split at h
  · cases h
  · obtain rfl := Option.some.inj h
    have hfront : Avoids breaksOff
        (t.target ++ .word " SET " :: joined ", " (bindings t.updateColumns 1)) := by
      simp (disch := decide) only [avoids_append, avoids_word, t.avoids_target, avoids_bindings,
        and_self]
    exact t.guarded_keyFilter hfront _

theorem guarded_delete {s : Statement} (h : t.delete = some s) : Guarded t.keyColumns s := by
  rw [delete] at h
  split at h
  · cases h
  · obtain rfl := Option.some.inj h
    exact t.guarded_keyFilter t.avoids_target _

theorem guarded_deleteBatch {s : Statement} (h : t.deleteBatch = some s) : Guarded t.keyColumns s := by
  rw [deleteBatch] at h
  split at h
  next key hkey =>
    obtain rfl := Option.some.inj h
    rw [hkey]
    have hin : Avoids changesRows [.name key.name, .word " IN "] := by
      simp (disch := decide) only [avoids_name, avoids_word, avoids_nil]
    exact guarded_change " WHERE " t.target [] [_] rfl t.avoids_target (.inl List.suffix_rfl)
      (by decide) (.cons .values .nil) hin nofun trivial
  next => cases h

/-- A change to the rows that match staged ones on the key, in the words of either dialect. -/
theorem guarded_keyMatch (w lead : String) {front back : Statement} (hfront : Avoids breaksOff front)
    (hlead : " WHERE ".toList <:+ lead.toList ∨ " ON ".toList <:+ lead.toList)
    (hquiet : changesRows lead = false)
    (hback : ∀ f ∈ back.head?, ∃ w, f = .word w ∧
      (" WHERE ".toList <+: w.toList ∨ " AND ".toList <+: w.toList))
    (h : Guarded t.keyColumns back) :
    Guarded t.keyColumns
      (.word w :: (front ++ .word lead :: (keyMatch "t" "s" t.keyColumns ++ back))) :=
  guarded_change lead front back _ rfl hfront hlead hquiet (compared_keyMatch "t" "s" t.keyColumns)
    (avoids_keyMatch t.keyColumns).quiet hback h

theorem guarded_sqlServerApply : Guarded t.keyColumns t.sqlServerApply := by
  have hinsert : Avoids changesRows (.word "SET NOCOUNT ON;\n" ::
      .word "DECLARE @inserted BIGINT = 0, @updated BIGINT = 0, @deleted BIGINT = 0;\n" ::
        t.applyInsert ++ [.word ";\nSET @inserted = @@ROWCOUNT;\n"]) := by
    simp (disch := decide) only [avoids_append, avoids_word, t.avoids_applyInsert, avoids_nil,
      and_self]
  have hjoin : Avoids breaksOff (.word " FROM " :: t.target ++
      [.word " AS t INNER JOIN ", .name t.stagingName]) := by
    simp (disch := decide) only [avoids_append, avoids_word, avoids_name, t.avoids_target,
      avoids_nil, and_self]
  have hend : Avoids changesRows (.word " WHERE " :: changeFilter .delete ++
      [.word ";\nSET @deleted = @@ROWCOUNT;\n", .word "DROP TABLE ", .name t.stagingName,
        .word ";\nSELECT @inserted AS ", .name "inserted", .word ", @updated AS ", .name "updated",
        .word ", @deleted AS ", .name "deleted", .word ";"]) := by
    simp (disch := decide) only [avoids_append, avoids_word, avoids_name,
      (avoids_changeFilter .delete).quiet, avoids_nil, and_self]
  -- The script is put together from its end, as a change is guarded by what follows it.
  have hdelete := t.guarded_keyMatch "DELETE t" " AS s ON " hjoin (.inr (by decide))
    (by decide) (by simp) (guarded_of_quiet hend)
  cases hcolumns : t.updateColumns with
  | nil =>
    have hscript := guarded_append_of_quiet hinsert hdelete
    simpa [sqlServerApply, hcolumns] using hscript
  | cons c cs =>
    have hset : Avoids breaksOff (joined ", " ((c :: cs).map fun c =>
        [.word "t.", .name c.name, .word " = s.", .name c.name])) := by
      refine avoids_joined (by decide) (List.forall_mem_map.2 fun c _ => ?_)
      simp (disch := decide) only [avoids_word, avoids_name, avoids_nil]
    have hcount : Avoids changesRows (.word " WHERE " :: changeFilter .update ++
        [.word ";\nSET @updated = @@ROWCOUNT;\n"]) := by
      simp (disch := decide) only [avoids_append, avoids_word,
        (avoids_changeFilter .update).quiet, avoids_nil, and_self]
    have hupdate := t.guarded_keyMatch "UPDATE t SET " " AS s ON " (avoids_append.2 ⟨hset, hjoin⟩)
      (.inr (by decide)) (by decide) (by simp) (guarded_append_of_quiet hcount hdelete)
    have hscript := guarded_append_of_quiet hinsert hupdate
    simpa [sqlServerApply, hcolumns] using hscript

theorem guarded_postgresApply : Guarded t.keyColumns t.postgresApply := by
  have hinsert : Avoids changesRows (.word "WITH " :: .word "ins AS (" :: t.applyInsert ++
      [.word " RETURNING 1)", .word ",\n"]) := by
    simp (disch := decide) only [avoids_append, avoids_word, t.avoids_applyInsert, avoids_nil,
      and_self]
  have hmatch (kind : ChangeKind) : Avoids changesRows (.word " AND " :: changeFilter kind ++
      [.word " RETURNING 1)"]) := by
    simp (disch := decide) only [avoids_append, avoids_word, (avoids_changeFilter kind).quiet,
      avoids_nil, and_self]
  have hcounts : Avoids changesRows [.word "\nSELECT (SELECT COUNT(*) FROM ins) AS ", .name "inserted",
      .word (", " ++ (if t.updateColumns.isEmpty then "0" else "(SELECT COUNT(*) FROM upd)") ++
        "::BIGINT AS "), .name "updated", .word ", (SELECT COUNT(*) FROM del) AS ", .name "deleted",
      .word ";\nDROP TABLE ", .name t.stagingName] := by
    cases t.updateColumns.isEmpty <;>
      simp (disch := decide) only [avoids_word, avoids_name, avoids_nil, if_true, if_false,
        Bool.false_eq_true]
  have husing : Avoids breaksOff (t.target ++ [.word " AS t USING ", .name t.stagingName]) := by
    simp (disch := decide) only [avoids_append, avoids_word, avoids_name, t.avoids_target,
      avoids_nil, and_self]
  have hdelete := t.guarded_keyMatch "del AS (DELETE FROM " " AS s WHERE " husing
    (.inl (by decide)) (by decide) (by simp)
    (guarded_append_of_quiet (hmatch .delete) (guarded_of_quiet hcounts))
  cases hcolumns : t.updateColumns with
  | nil =>
    have hscript := guarded_append_of_quiet hinsert hdelete
    simpa [postgresApply, hcolumns, joined_cons] using hscript
  | cons c cs =>
    have hset : Avoids breaksOff (t.target ++ .word " AS t SET " :: joined ", " ((c :: cs).map fun c =>
        [.name c.name, .word " = s.", .name c.name]) ++ [.word " FROM ", .name t.stagingName]) := by
      have hlist : Avoids breaksOff (joined ", " ((c :: cs).map fun c =>
          [.name c.name, .word " = s.", .name c.name])) := by
        refine avoids_joined (by decide) (List.forall_mem_map.2 fun c _ => ?_)
        simp (disch := decide) only [avoids_word, avoids_name, avoids_nil]
      simp (disch := decide) only [avoids_append, avoids_word, avoids_name, t.avoids_target, hlist,
        avoids_nil, and_self]
    have hbetween : Avoids changesRows [.word ",\n"] := by
      simp (disch := decide) only [avoids_word, avoids_nil]
    have hupdate := t.guarded_keyMatch "upd AS (UPDATE " " AS s WHERE " hset (.inl (by decide))
      (by decide) (by simp)
      (guarded_append_of_quiet (hmatch .update) (guarded_append_of_quiet hbetween hdelete))
    have hscript := guarded_append_of_quiet hinsert hupdate
    simpa [postgresApply, hcolumns, joined_cons] using hscript

/-- Staged changes are applied to the rows whose key is staged. -/
theorem guarded_apply : Guarded t.keyColumns t.apply := by
  rw [apply]
  cases t.dialect with
  | sqlServer => exact t.guarded_sqlServerApply
  | postgres => exact t.guarded_postgresApply

theorem guarded_applyIndexed : Guarded t.keyColumns t.applyIndexed := by
  have hindex : Avoids changesRows (t.stagingIndex ++ [.word ";\n"]) := by
    simp (disch := decide) only [avoids_append, avoids_word, t.avoids_stagingIndex, avoids_nil,
      and_self]
  simpa [applyIndexed] using guarded_append_of_quiet hindex t.guarded_apply

/-! ## Tables with a key -/

/-- The key of a table is there; its properties are told apart and have columns that are never null. -/
structure HasKey : Prop where
  keys_ne_nil : t.keys ≠ []
  nodup : t.keys.Nodup
  column : ∀ k ∈ t.keys, (t.column? k).isSome = true
  required : ∀ c ∈ t.columns, c.property ∈ t.keys → c.nullable = false

/-- A statement changes rows, and only those that a condition on each column of the key admits. -/
def ChangesByKey (s : Statement) : Prop :=
  s.any (·.isWord changesRows) = true ∧ Guarded t.keyColumns s

/-- What a key means for the statements on a table. -/
structure KeyedStatements : Prop where
  /-- Each property of the key has its column. -/
  columns : t.keyColumns.map (·.property) = t.keys
  required : ∀ c ∈ t.keyColumns, c.nullable = false ∧
    ∃ text, t.columnDefinition c = [.name c.name, .word (text ++ " NOT NULL")]
  delete : ∃ s, t.delete = some s ∧ t.ChangesByKey s
  find : ∃ s, t.find = some s ∧ s.RestrictedBy t.keyColumns
  staging : t.stagingTexts.isSome = true
  apply : t.ChangesByKey t.apply
  applyIndexed : t.ChangesByKey t.applyIndexed
  updates : t.update.isSome = true ↔ ∃ c ∈ t.columns, c.property ∉ t.keys ∧ c.property ∉ t.identity
  update : ∀ s ∈ t.update, t.ChangesByKey s
  deletesBatches : t.deleteBatch.isSome = true ↔ t.keys.length = 1
  deleteBatch : ∀ s ∈ t.deleteBatch, t.ChangesByKey s
  upserts : t.upsert = none ↔ ∀ k ∈ t.keys, k ∈ t.identity
  /-- A row is found by the columns of the key that the store does not assign, and there are some. -/
  upsert : ∀ s ∈ t.upsert, t.upsertKeys ≠ [] ∧
    ((∃ front conditions back, s = front ++ .word ") ON " :: (joined " AND " conditions ++ back) ∧
        List.Forall₂ Column.IsCompared t.upsertKeys conditions) ∨
      ∃ front back, s = front ++ .word " ON CONFLICT (" ::
        (columnList t.upsertKeys ++ .word ") " :: back))

variable {t}

/-- A statement that begins with a change. -/
theorem changesByKey_cons {w : String} {rest : Statement}
    (hw : changesRows w = true) (h : Guarded t.keyColumns (.word w :: rest)) :
    t.ChangesByKey (.word w :: rest) :=
  ⟨List.any_eq_true.2 ⟨_, List.mem_cons_self, hw⟩, h⟩

theorem changesByKey_update {s : Statement} (h : t.update = some s) : t.ChangesByKey s := by
  have hguarded := t.guarded_update h
  rw [update] at h
  split at h
  · cases h
  · obtain rfl := Option.some.inj h
    exact changesByKey_cons (by decide) hguarded

theorem changesByKey_delete {s : Statement} (h : t.delete = some s) : t.ChangesByKey s := by
  have hguarded := t.guarded_delete h
  rw [delete] at h
  split at h
  · cases h
  · obtain rfl := Option.some.inj h
    exact changesByKey_cons (by decide) hguarded

theorem changesByKey_deleteBatch {s : Statement} (h : t.deleteBatch = some s) : t.ChangesByKey s := by
  have hguarded := t.guarded_deleteBatch h
  rw [deleteBatch] at h
  split at h
  · obtain rfl := Option.some.inj h
    exact changesByKey_cons (by decide) hguarded
  · cases h

theorem any_changesRows_apply : t.apply.any (·.isWord changesRows) = true := by
  have hdelete : ∀ w ∈ ["DELETE t", "del AS (DELETE FROM "], changesRows w = true := by
    decide
  rw [apply, List.any_eq_true]
  cases t.dialect with
  | sqlServer => exact ⟨.word "DELETE t", by simp [sqlServerApply], hdelete _ (by simp)⟩
  | postgres =>
    refine ⟨.word "del AS (DELETE FROM ", ?_, hdelete _ (by simp)⟩
    simp [postgresApply, joined_cons]

/-- Each property of a key has its column. -/
theorem map_property_keyColumns (h : ∀ k ∈ t.keys, (t.column? k).isSome = true) :
    t.keyColumns.map (·.property) = t.keys := by
  rw [keyColumns, List.map_filterMap]
  refine (List.filterMap_congr fun k hk => ?_).trans List.filterMap_some
  obtain ⟨c, hc⟩ := Option.isSome_iff_exists.1 (h k hk)
  have hproperty : c.property = k := by simpa using List.find?_some hc
  rw [hc, Option.map_some, hproperty]

theorem upsert_eq_none_iff_upsertKeys (t : Table) : t.upsert = none ↔ t.upsertKeys = [] := by
  rw [upsert]
  cases t.upsertKeys with
  | nil => simp
  | cons key keys => cases t.dialect.upsertStrategy <;> simp

theorem upsertKeys_eq_nil_iff (h : ∀ k ∈ t.keys, (t.column? k).isSome = true) :
    t.upsertKeys = [] ↔ ∀ k ∈ t.keys, k ∈ t.identity := by
  rw [upsertKeys, List.filter_eq_nil_iff, ← map_property_keyColumns h]
  simp [isIdentity]

/-- The columns of a key by which an upsert finds a row. -/
theorem exists_upsert_match {s : Statement} (h : s ∈ t.upsert) : t.upsertKeys ≠ [] ∧
    ((∃ front conditions back, s = front ++ .word ") ON " :: (joined " AND " conditions ++ back) ∧
        List.Forall₂ Column.IsCompared t.upsertKeys conditions) ∨
      ∃ front back, s = front ++ .word " ON CONFLICT (" ::
        (columnList t.upsertKeys ++ .word ") " :: back)) := by
  rw [Option.mem_def, upsert] at h
  split at h
  next => cases h
  next hkeys =>
    refine ⟨hkeys, ?_⟩
    cases hstrategy : t.dialect.upsertStrategy with
    | merge =>
      rw [hstrategy] at h
      obtain rfl := Option.some.inj h
      have hmatch (a b c d e f : Statement) (w : Fragment) :
          a ++ w :: b ++ c ++ d ++ e ++ f = a ++ w :: (b ++ (c ++ (d ++ (e ++ f)))) := by simp
      exact .inl ⟨_, _, _, hmatch _ _ _ _ _ _ _, compared_keyMatch "target" "source" t.upsertKeys⟩
    | onConflict =>
      rw [hstrategy] at h
      obtain rfl := Option.some.inj h
      exact .inr ⟨t.insert, _, by simp [conflictUpsert]; rfl⟩

namespace HasKey

variable (h : t.HasKey)

include h

theorem properties_keyColumns : t.keyColumns.map (·.property) = t.keys :=
  map_property_keyColumns h.column

theorem keyColumns_ne_nil : t.keyColumns ≠ [] := by
  intro hnone
  have hkeys := h.properties_keyColumns
  rw [hnone] at hkeys
  exact h.keys_ne_nil hkeys.symm

theorem required_keyColumns {c : Column} (hc : c ∈ t.keyColumns) : c.nullable = false ∧
    ∃ text, t.columnDefinition c = [.name c.name, .word (text ++ " NOT NULL")] := by
  have hnullable : c.nullable = false :=
    h.required c (mem_columns_of_mem_keyColumns hc) (by simpa [isKey] using isKey_of_mem_keyColumns hc)
  refine ⟨hnullable, ?_⟩
  simp only [columnDefinition, hnullable, Bool.false_eq_true, if_false]
  exact ⟨_, rfl⟩

theorem exists_delete : ∃ s, t.delete = some s ∧ t.ChangesByKey s := by
  obtain ⟨s, hs⟩ : ∃ s, t.delete = some s := ⟨_, by simp [delete, h.keys_ne_nil]; rfl⟩
  exact ⟨s, hs, changesByKey_delete hs⟩

theorem exists_find : ∃ s, t.find = some s ∧ s.RestrictedBy t.keyColumns := by
  refine ⟨_, by rw [find, if_neg (by simpa using h.keys_ne_nil)], ?_⟩
  exact ⟨t.select, " WHERE ", _, [], by rw [keyFilter, List.append_nil], t.avoids_select,
    .inl List.suffix_rfl, compared_bindings t.keyColumns 1, nofun⟩

theorem isSome_update_iff : t.update.isSome = true ↔
    ∃ c ∈ t.columns, c.property ∉ t.keys ∧ c.property ∉ t.identity := by
  have hsome : t.update.isSome = true ↔ t.updateColumns ≠ [] := by
    rw [update]
    by_cases hcolumns : t.updateColumns = [] <;> simp [hcolumns, h.keys_ne_nil]
  rw [hsome, updateColumns, ne_eq, List.filter_eq_nil_iff]
  simp [isKey, isIdentity]

theorem isSome_deleteBatch_iff : t.deleteBatch.isSome = true ↔ t.keys.length = 1 := by
  rw [← h.properties_keyColumns, List.length_map, deleteBatch]
  rcases t.keyColumns with _ | ⟨key, _ | ⟨other, rest⟩⟩ <;> simp

theorem upsert_eq_none_iff : t.upsert = none ↔ ∀ k ∈ t.keys, k ∈ t.identity :=
  t.upsert_eq_none_iff_upsertKeys.trans (upsertKeys_eq_nil_iff h.column)

theorem keyedStatements : t.KeyedStatements where
  columns := h.properties_keyColumns
  required := fun _ hc => h.required_keyColumns hc
  delete := h.exists_delete
  find := h.exists_find
  staging := by simp [stagingTexts, h.keyColumns_ne_nil]
  apply := ⟨any_changesRows_apply, t.guarded_apply⟩
  applyIndexed := ⟨by simp [applyIndexed, any_changesRows_apply], t.guarded_applyIndexed⟩
  updates := h.isSome_update_iff
  update := fun _ => changesByKey_update
  deletesBatches := h.isSome_deleteBatch_iff
  deleteBatch := fun _ => changesByKey_deleteBatch
  upserts := h.upsert_eq_none_iff
  upsert := fun _ => exists_upsert_match

end HasKey

end Table

end Tablewright
