import Tablewright.Proofs.ColumnLists
import Tablewright.Proofs.KeyedStatements
import Tablewright.Proofs.StatementFragments

/-!
# Conflict targets

An upsert that goes by conflicts names the columns in which another row conflicts with the new one,
and a store looks for a constraint on exactly these columns. The only constraint of a table is on its
key, and an upsert names the columns of the key but those that the store assigns. So the columns that
both name are read off the statements here and compared.

## Key results

- `listBehind_append`: the names in a list, read off the statement that it stands in
- `listBehind_create`, `listBehind_conflictUpsert`: the columns of the key and of a conflict
- `conflict_target_iff`: the tables whose upsert names the key
-/

namespace Tablewright

open Sql Statement

namespace Sql.Statement

variable {lead close : String} {front list back : Statement}

/-- The names of a list, which begins behind a word and goes on to a closing parenthesis. -/
def listBehind (lead : String) (s : Statement) : Option (List String) :=
  match s.dropWhile (· != .word lead) with
  | [] => none
  | _ :: rest => some (names (rest.takeWhile fun f => !f.isWord fun w => w.toList.head? == some ')'))

/-- The list behind the first word of its kind. -/
theorem listBehind_append (hfront : Avoids (· == lead) front)
    (hlist : Avoids (·.toList.head? == some ')') list) (hclose : close.toList.head? = some ')') :
    listBehind lead (front ++ .word lead :: (list ++ .word close :: back)) = some list.names := by
  have hclosing : (Fragment.word close).isWord (·.toList.head? == some ')') = true := by
    simp [Fragment.isWord, hclose]
  -- Both readings pass what lacks the word that they stop at, and stop at it.
  rw [listBehind, List.dropWhile_append_of_pos hfront.ne_word, List.dropWhile_cons_of_neg (by simp)]
  simp only [Option.some.injEq]
  rw [List.takeWhile_append_of_pos fun f hf => by simp [hlist f hf],
    List.takeWhile_cons_of_neg (by simp [hclosing]), List.append_nil]

/-- A conflict is on a constraint of the table that is created: the constraint on the key, if both name
the same columns, in whatever order. -/
def Infers (upsert create : Statement) : Prop :=
  ∃ target key, upsert.listBehind " ON CONFLICT (" = some target ∧
    create.listBehind " PRIMARY KEY (" = some key ∧ ∀ name, name ∈ target ↔ name ∈ key

end Sql.Statement

namespace Table

variable {t : Table}

/-! ## The columns of a key -/

/-- Columns are defined in words of their own: they end in `NULL`. -/
theorem avoids_definitions {w : String} (hw : w.toList.getLast? ≠ some 'L')
    (hbetween : (", " == w) = false) :
    Avoids (· == w) (joined ", " (t.columns.map t.columnDefinition)) := by
  have hend (front : String) (c : Column) :
      (front ++ if c.nullable then " NULL" else " NOT NULL") ≠ w := by
    intro h
    rw [← h, String.toList_append, List.getLast?_append] at hw
    cases hnull : c.nullable <;> simp [hnull] at hw
  refine avoids_joined hbetween (List.forall_mem_map.2 fun c _ => ?_)
  simp only [columnDefinition, avoids_name]
  exact (avoids_word (by simpa using hend _ c)).2 avoids_nil

/-- The definition of a table up to the columns of its key. -/
def definitions (t : Table) : Statement :=
  .word "CREATE TABLE " :: t.target ++ .word " (" :: joined ", " (t.columns.map t.columnDefinition) ++
    [.word ", ", .word "CONSTRAINT ", .name ("PK_" ++ t.name)]

theorem create_eq (hkey : t.keyColumns ≠ []) : t.create =
    t.definitions ++ .word " PRIMARY KEY (" :: (columnList t.keyColumns ++ [.word ")", .word ")"]) := by
  obtain ⟨c, hc⟩ := List.exists_mem_of_ne_nil _ hkey
  obtain ⟨d, ds, hcolumns⟩ := List.exists_cons_of_ne_nil
    (List.ne_nil_of_mem (mem_columns_of_mem_keyColumns hc))
  rw [create, definitions, hcolumns]
  cases hkeys : t.keyColumns with
  | nil => exact absurd hkeys hkey
  | cons k ks => simp [joined_cons]

theorem listBehind_create (hkey : t.keyColumns ≠ []) :
    t.create.listBehind " PRIMARY KEY (" = some (columnNames t.keyColumns) := by
  have hcolumns : Avoids (· == " PRIMARY KEY (") (joined ", " (t.columns.map t.columnDefinition)) :=
    avoids_definitions (by decide) (by decide)
  have hfront : Avoids (· == " PRIMARY KEY (") t.definitions := by
    simp (disch := decide) only [definitions, target, avoids_append, avoids_word, avoids_name,
      hcolumns, avoids_nil, and_self]
  rw [create_eq hkey, listBehind_append hfront (avoids_names (by decide) _) (by decide), names_columnList]
  rfl

/-! ## The columns of a conflict -/

theorem listBehind_conflictUpsert (keys : List Column) :
    (t.conflictUpsert keys).listBehind " ON CONFLICT (" = some (columnNames keys) := by
  have hvalues : Avoids (· == " ON CONFLICT (") (joined ", " (t.insertColumns.zipIdx.map fun p =>
      [.parameter p.1.parameterName (p.2 + 1)])) := by
    refine avoids_joined (by decide) (List.forall_mem_map.2 fun p _ => ?_)
    simp only [avoids_parameter, avoids_nil]
  have hcolumns : Avoids (· == " ON CONFLICT (") (columnList t.insertColumns) :=
    avoids_names (by decide) _
  have hfront : Avoids (· == " ON CONFLICT (") t.insert := by
    simp (disch := decide) only [insert, insertHead, target, avoids_append, avoids_word, avoids_name,
      hcolumns, hvalues, avoids_nil, and_self]
  rw [conflictUpsert_eq, List.append_assoc, List.cons_append,
    listBehind_append hfront (avoids_names (by decide) _) (by decide), names_columnList]
  rfl

theorem upsert_eq_conflictUpsert (hdialect : t.dialect = .postgres) {s : Statement}
    (h : t.upsert = some s) : s = t.conflictUpsert t.upsertKeys := by
  rw [upsert] at h
  split at h
  · cases h
  · rw [hdialect] at h
    exact (Option.some.inj h).symm

theorem textOf_append (t : Table) (s s' : Statement) : t.textOf (s ++ s') = t.textOf s ++ t.textOf s' := by
  rw [← String.toList_inj, String.toList_append, textOf, textOf, textOf, toList_text, toList_text,
    toList_text, chars_append]

theorem textOf_word (t : Table) (w : String) (s : Statement) : t.textOf (.word w :: s) = w ++ t.textOf s := by
  rw [← String.toList_inj, String.toList_append, textOf, textOf, toList_text, toList_text, chars_word]

/-! ## The key as the target -/

/-- What an upsert by conflicts and the definition of its table name, read off both, and the texts that
they are written in. -/
structure ConflictTarget (t : Table) (s : Statement) : Prop where
  key : t.create.listBehind " PRIMARY KEY (" = some (columnNames t.keyColumns)
  /-- The upsert names the columns of the key that the store does not assign. -/
  target : s.listBehind " ON CONFLICT (" =
    some (columnNames (t.keyColumns.filter fun c => !t.isIdentity c.property))
  create : t.texts.create = t.textOf t.definitions ++ " PRIMARY KEY (" ++
    t.textOf (columnList t.keyColumns) ++ "))"
  upsert : t.texts.upsert = some (t.texts.insert ++ " ON CONFLICT (" ++
    t.textOf (columnList t.upsertKeys) ++ ") " ++ t.textOf t.conflictAction)

theorem upsertKeys_eq_keyColumns_iff (hcolumns : ∀ k ∈ t.keys, (t.column? k).isSome = true) :
    t.upsertKeys = t.keyColumns ↔ ∀ k ∈ t.keys, k ∉ t.identity := by
  rw [upsertKeys, List.filter_eq_self, ← map_property_keyColumns hcolumns]
  simp [isIdentity]

/-- The same names in as many columns: nothing was left out. -/
theorem columnNames_upsertKeys_eq_iff :
    columnNames t.upsertKeys = columnNames t.keyColumns ↔ t.upsertKeys = t.keyColumns := by
  refine ⟨fun h => ?_, fun h => by rw [h]⟩
  -- Names alone would not do here: two columns of the key may share one.
  have hlength := congrArg List.length h
  rw [columnNames, columnNames, List.length_map, List.length_map] at hlength
  exact List.Sublist.eq_of_length List.filter_sublist hlength

/-- Where columns have names of their own, a column that is left out is not named by another one. -/
theorem mem_columnNames_upsertKeys_iff (hnames : (t.columns.map (·.name)).Nodup) :
    (∀ name, name ∈ columnNames t.upsertKeys ↔ name ∈ columnNames t.keyColumns) ↔
      t.upsertKeys = t.keyColumns := by
  refine ⟨fun h => List.filter_eq_self.2 fun c hc => ?_, fun h name => by rw [h]⟩
  obtain ⟨c', hc', hname⟩ := List.mem_map.1 ((h c.name).2 (List.mem_map_of_mem hc))
  obtain ⟨hc', hstays⟩ := List.mem_filter.1 hc'
  have heq : c' = c := eq_of_name_eq hnames (mem_columns_of_mem_keyColumns hc')
    (mem_columns_of_mem_keyColumns hc) hname
  rwa [heq] at hstays

theorem conflictTarget_upsert (hdialect : t.dialect = .postgres) (hkey : t.keyColumns ≠ [])
    {s : Statement} (h : t.upsert = some s) : t.ConflictTarget s where
  key := listBehind_create hkey
  target := by rw [upsert_eq_conflictUpsert hdialect h, listBehind_conflictUpsert, upsertKeys]
  create := by
    rw [texts, create_eq hkey, textOf_append, textOf_word, textOf_append]
    simp only [String.append_assoc]
    rfl
  upsert := by
    rw [texts, h, Option.map_some, upsert_eq_conflictUpsert hdialect h, conflictUpsert_eq,
      textOf_append, textOf_append, textOf_word, textOf_word]
    simp only [String.append_assoc]

/-- An upsert goes by the key of its table exactly if the store assigns no part of the key; there is one
whenever the store does not assign all of it. -/
theorem conflict_target_iff (hdialect : t.dialect = .postgres) (hkeys : t.keys ≠ [])
    (hcolumns : ∀ k ∈ t.keys, (t.column? k).isSome = true) :
    (t.upsert = none ↔ ∀ k ∈ t.keys, k ∈ t.identity) ∧
    ∀ s ∈ t.upsert, t.ConflictTarget s ∧
      (s.listBehind " ON CONFLICT (" = t.create.listBehind " PRIMARY KEY (" ↔
        ∀ k ∈ t.keys, k ∉ t.identity) ∧
      ((t.columns.map (·.name)).Nodup → (s.Infers t.create ↔ ∀ k ∈ t.keys, k ∉ t.identity)) := by
  have hkey : t.keyColumns ≠ [] := by
    intro hnone
    have hproperties := map_property_keyColumns hcolumns
    rw [hnone] at hproperties
    exact hkeys hproperties.symm
  refine ⟨t.upsert_eq_none_iff_upsertKeys.trans (upsertKeys_eq_nil_iff hcolumns), fun s hs => ?_⟩
  have htarget := conflictTarget_upsert hdialect hkey hs
  have hlist : s.listBehind " ON CONFLICT (" = some (columnNames t.upsertKeys) := htarget.target
  refine ⟨htarget, ?_, fun hnames => ?_⟩
  · rw [hlist, htarget.key, Option.some_inj, columnNames_upsertKeys_eq_iff,
      upsertKeys_eq_keyColumns_iff hcolumns]
  · rw [← upsertKeys_eq_keyColumns_iff hcolumns, ← mem_columnNames_upsertKeys_iff hnames]
    simp [Infers, hlist, htarget.key]

/-- The sales of a day in each region, which bring their key along. -/
def dailySales : Table where
  dialect := .postgres
  schema := "public"
  name := "Sales"
  columns := [.ofProperty "region" (.postgres .integer), .ofProperty "day" (.postgres .date),
    .ofProperty "total" (.postgres .bigInt)]
  keys := ["region", "day"]
  identity := []

theorem conflict_target_dailySales :
    ∃ s, dailySales.upsert = some s ∧
      s.listBehind " ON CONFLICT (" = some ["region", "day"] ∧ s.Infers dailySales.create := by
  obtain ⟨hnone, hsome⟩ := conflict_target_iff (t := dailySales) rfl (by decide) (by decide)
  obtain ⟨s, hs⟩ := Option.ne_none_iff_exists'.1 (mt hnone.1 (by decide))
  obtain ⟨htarget, -, hinfers⟩ := hsome s hs
  exact ⟨s, hs, htarget.target.trans (by decide), (hinfers (by decide)).2 (by decide)⟩

/-! ## Keys that the store assigns in part -/

/-- Sales that the store numbers within a region. -/
def numberedSales : Table where
  dialect := .postgres
  schema := "public"
  name := "Sales"
  columns := [.ofProperty "number" (.postgres .bigInt), .ofProperty "region" (.postgres .integer),
    .ofProperty "total" (.postgres .bigInt)]
  keys := ["number", "region"]
  identity := ["number"]

/-- The upsert names the region alone, on which there is no constraint: every region has many sales. -/
theorem conflict_target_lacks_number :
    ¬(∀ t : Table, t.dialect = .postgres → t.keys ≠ [] →
      (∀ k ∈ t.keys, (t.column? k).isSome = true) → ∀ s ∈ t.upsert,
        s.listBehind " ON CONFLICT (" = t.create.listBehind " PRIMARY KEY (") ∧
    numberedSales.texts.create = "CREATE TABLE \"public\".\"Sales\" (" ++
      "\"number\" BIGINT GENERATED BY DEFAULT AS IDENTITY NOT NULL, \"region\" INTEGER NOT NULL, " ++
      "\"total\" BIGINT NOT NULL, CONSTRAINT \"PK_Sales\" PRIMARY KEY (\"number\", \"region\"))" ∧
    numberedSales.texts.upsert = some ("INSERT INTO \"public\".\"Sales\" (\"region\", \"total\") " ++
      "VALUES ($1, $2) ON CONFLICT (\"region\") DO UPDATE SET \"total\" = EXCLUDED.\"total\"") := by
  refine ⟨fun h => ?_, by decide +kernel, by decide +kernel⟩
  obtain ⟨s, hs⟩ : ∃ s, numberedSales.upsert = some s := ⟨_, rfl⟩
  have htarget := h numberedSales rfl (by decide) (by decide) s hs
  have hconflict := conflictTarget_upsert (t := numberedSales) rfl (by decide) hs
  rw [hconflict.key, hconflict.target] at htarget
  exact absurd htarget (by decide)

end Table

end Tablewright
