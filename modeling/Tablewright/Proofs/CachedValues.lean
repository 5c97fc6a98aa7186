import Mathlib.Data.List.Basic
import Tablewright.Proofs.StatementPlaceholders

/-!
# Values from the cache

The groups of a shape are written with one number that runs on, and a cache keeps those of the shapes that
it was asked for first. Whoever asks for a shape gets its groups, whatever was asked for before.

## Key results

- `groups_eq_valueGroups`: the groups of a shape as a whole
- `groups_eq_iff`: what of a shape its groups tell
- `ValuesCache.Remembers.lookUpAll`: the cache holds the shapes that were asked for first
- `ValuesCache.lookUpAll_exact`: a cache answers as if it were none, and stays within its capacity
-/

namespace Tablewright.Sql

/-! ## The number that runs on -/

namespace Numbering

/-- Items written one after the other, with commas between them, each of which takes `width` numbers. -/
theorem foldl_items {write : Numbering → Nat → Numbering} {item : Nat → String} {width : Nat}
    (hwrite : ∀ n i, write n i =
      ⟨n.text ++ (if i = 0 then "" else ", ") ++ item n.next, n.next + width⟩)
    (n : Numbering) (count : Nat) : (List.range count).foldl write n =
      ⟨n.text ++ ", ".intercalate ((List.range count).map fun i => item (n.next + i * width)),
        n.next + count * width⟩ := by
  -- After each item the next number is the one behind those of all items so far.
  induction count with
  | zero => simp
  | succ count ih =>
    have hnext : n.next + count * width + width = n.next + (count + 1) * width := by
      rw [Nat.add_assoc, Nat.succ_mul]
    rw [List.range_succ, List.foldl_append, List.foldl_cons, List.foldl_nil, ih, hwrite, hnext,
      List.map_append, List.map_singleton]
    cases count with
    | zero => simp
    | succ count =>
      -- From the second item on there is something in front of the comma.
      have hne : (List.range (count + 1)).map (fun i => item (n.next + i * width)) ≠ [] := by simp
      rw [String.intercalate_append_of_ne_nil hne (List.cons_ne_nil _ _), String.intercalate_singleton,
        if_neg count.succ_ne_zero]
      simp only [String.append_assoc]

theorem group_eq (d : Dialect) (width : Nat) (n : Numbering) (row : Nat) : n.group d width row =
    ⟨n.text ++ (if row = 0 then "" else ", ") ++ valueGroup d width n.next, n.next + width⟩ := by
  have hplaceholder (n : Numbering) (i : Nat) : n.placeholder d i =
      ⟨n.text ++ (if i = 0 then "" else ", ") ++ d.placeholder n.next, n.next + 1⟩ := rfl
  rw [group, foldl_items hplaceholder, valueGroup]
  simp only [Nat.mul_one, String.append_assoc]

end Numbering

namespace ValuesShape

/-- The groups of a shape, as a whole: each begins with the number behind those of the groups before. -/
theorem groups_eq_valueGroups (s : ValuesShape) :
    s.groups = valueGroups s.dialect s.rows s.width s.start := by
  rw [groups, Numbering.foldl_items (Numbering.group_eq s.dialect s.width), valueGroups,
    String.empty_append]

end ValuesShape

/-! ## What the groups tell -/

/-- A character that is once in each part and not between them is as often in the joined text as there are
parts. -/
theorem count_intercalate {x : Char} {between : List Char} (hbetween : x ∉ between)
    {parts : List (List Char)} (h : ∀ p ∈ parts, p.count x = 1) :
    (between.intercalate parts).count x = parts.length := by
  induction parts with
  | nil => rfl
  | cons p parts ih =>
    obtain ⟨hp, hrest⟩ := List.forall_mem_cons.1 h
    have ih := ih hrest
    cases parts with
    | nil => rwa [List.intercalate_singleton]
    | cons q parts =>
      rw [List.intercalate_cons_cons, List.count_append, List.count_append, hp, ih,
        List.count_eq_zero.2 hbetween, Nat.add_zero, Nat.add_comm]
      rfl

theorem count_groupText {placeholders : List (List Char)} (h : ∀ p ∈ placeholders, IsPlaceholder p) :
    (groupText placeholders).count '(' = 1 := by
  have hplaceholders : '(' ∉ ", ".toList.intercalate placeholders :=
    Text.notMem_intercalate (by decide) fun p hp => (h p hp).notMem (by decide) (by decide)
  rw [groupText, List.count_cons_self, List.count_append, List.count_eq_zero.2 hplaceholders]
  rfl

namespace ValuesShape

/-- Each row opens one parenthesis, and nothing else does. -/
theorem count_groups (s : ValuesShape) : s.groups.toList.count '(' = s.rows := by
  rw [groups_eq_valueGroups, toList_valueGroups, count_intercalate (by decide)]
  · rw [List.length_map, List.length_map, List.length_range]
  · intro text htext
    obtain ⟨g, hg, rfl⟩ := List.mem_map.1 htext
    obtain ⟨i, -, rfl⟩ := List.mem_map.1 hg
    exact count_groupText (isPlaceholder_numbered _ _ _)

/-- The placeholders of the groups are numbered through. -/
theorem placeholdersIn_groups (s : ValuesShape) : placeholdersIn s.dialect s.groups =
    (List.range (s.rows * s.width)).map fun k => s.dialect.placeholder (s.start + k) := by
  rw [groups_eq_valueGroups, placeholdersIn_valuesFrom]

/-- Groups of one dialect tell how many rows there are, with a row how wide it is, and with a placeholder
the number that they begin with. -/
theorem groups_eq_iff (d : Dialect) (rows width start rows' width' start' : Nat) :
    (ValuesShape.mk d rows width start).groups = (ValuesShape.mk d rows' width' start').groups ↔
      rows = rows' ∧ (rows = 0 ∨ width = width' ∧ (width = 0 ∨ start = start')) := by
  constructor
  · intro h
    have hrows : rows = rows' := by
      have hcount := congrArg (fun text => text.toList.count '(') h
      simpa only [count_groups] using hcount
    have hnumbers : (List.range (rows * width)).map (fun k => d.placeholder (start + k)) =
        (List.range (rows' * width')).map fun k => d.placeholder (start' + k) := by
      have hplaceholders := congrArg (placeholdersIn d) h
      rwa [placeholdersIn_groups ⟨d, rows, width, start⟩,
        placeholdersIn_groups ⟨d, rows', width', start'⟩] at hplaceholders
    subst hrows
    refine ⟨rfl, (Nat.eq_zero_or_pos rows).imp_right fun hrows => ?_⟩
    have hwidth : width = width' := by
      have hlength := congrArg List.length hnumbers
      simp only [List.length_map, List.length_range] at hlength
      exact Nat.eq_of_mul_eq_mul_left hrows hlength
    subst hwidth
    refine ⟨rfl, (Nat.eq_zero_or_pos width).imp_right fun hwidth => ?_⟩
    have hfirst := List.map_inj_left.1 hnumbers 0 (List.mem_range.2 (Nat.mul_pos hrows hwidth))
    exact placeholder_inj hfirst
  · rintro ⟨rfl, rfl | ⟨rfl, rfl | rfl⟩⟩
    · rfl
    · simp [groups_eq_valueGroups, valueGroups, valueGroup]
    · rfl

end ValuesShape

/-! ## The cache -/

namespace ValuesCache

variable {c : ValuesCache} {asked : List ValuesShape}

/-- The cache holds the groups of the shapes that were asked for first, as many as it can. -/
def Remembers (c : ValuesCache) (asked : List ValuesShape) : Prop :=
  c.entries = (asked.eraseDups.take c.capacity).map fun s => (s, s.groups)

theorem remembers_empty (capacity : Nat) : (empty capacity).Remembers [] := by
  simp [Remembers, empty]

theorem Remembers.length_le (h : c.Remembers asked) : c.entries.length ≤ c.capacity := by
  rw [h, List.length_map]
  exact List.length_take_le _ _

theorem Remembers.lookup_eq_some_iff (h : c.Remembers asked) {s : ValuesShape} {text : String} :
    c.entries.lookup s = some text ↔ s ∈ asked.eraseDups.take c.capacity ∧ text = s.groups := by
  rw [h]
  by_cases hs : s ∈ asked.eraseDups.take c.capacity
  · rw [List.lookup_graph _ hs, Option.some.injEq, eq_comm]
    exact (and_iff_right hs).symm
  · have hnone : ((asked.eraseDups.take c.capacity).map fun s => (s, s.groups)).lookup s = none := by
      rw [List.lookup_eq_none_iff]
      intro p hp
      obtain ⟨s', hs', rfl⟩ := List.mem_map.1 hp
      exact bne_iff_ne.2 fun heq => hs (heq ▸ hs')
    rw [hnone]
    exact iff_of_false (Option.some_ne_none text).symm fun hmem => hs hmem.1

/-- What is asked for again is no new shape; what is asked for the first time is the last of them. -/
theorem eraseDups_concat (asked : List ValuesShape) (s : ValuesShape) :
    (asked ++ [s]).eraseDups = asked.eraseDups ++ if s ∈ asked then [] else [s] := by
  rw [List.eraseDups_append]
  by_cases hs : s ∈ asked <;> simp [List.removeAll, List.eraseDups_cons, hs]

/-- Asking once gives the groups of the shape, and the cache remembers the shape if it can. -/
theorem Remembers.lookUp (h : c.Remembers asked) (s : ValuesShape) :
    (c.lookUp s).1 = s.groups ∧ (c.lookUp s).2.capacity = c.capacity ∧
      (c.lookUp s).2.Remembers (asked ++ [s]) := by
  have hlength : c.entries.length = min c.capacity asked.eraseDups.length := by
    rw [h, List.length_map, List.length_take]
  rw [ValuesCache.lookUp]
  cases hlookup : c.entries.lookup s with
  | some text =>
    obtain ⟨hs, rfl⟩ := h.lookup_eq_some_iff.1 hlookup
    have hasked : s ∈ asked := List.mem_eraseDups.1 (List.mem_of_mem_take hs)
    refine ⟨rfl, rfl, show c.Remembers _ from ?_⟩
    rwa [Remembers, eraseDups_concat, if_pos hasked, List.append_nil]
  | none =>
    by_cases hroom : c.entries.length < c.capacity
    · -- With room left nothing has been turned away, so that the shape is a new one.
      have hall : asked.eraseDups.take c.capacity = asked.eraseDups :=
        List.take_of_length_le (by omega)
      have hasked : s ∉ asked := by
        intro hasked
        have hs := h.lookup_eq_some_iff.2 ⟨hall ▸ List.mem_eraseDups.2 hasked, rfl⟩
        exact absurd (hlookup.symm.trans hs) (by simp)
      have hentries : c.entries ++ [(s, s.groups)] =
          (asked.eraseDups ++ [s]).map fun s => (s, s.groups) := by
        rw [h, hall, List.map_append]
        rfl
      rw [if_pos hroom]
      refine ⟨rfl, rfl, ?_⟩
      rw [Remembers, eraseDups_concat, if_neg hasked, hentries, List.take_of_length_le]
      rw [List.length_append, List.length_singleton]
      show asked.eraseDups.length + 1 ≤ c.capacity
      omega
    · have hfull : c.capacity ≤ asked.eraseDups.length := by omega
      rw [if_neg hroom]
      refine ⟨rfl, rfl, show c.Remembers _ from ?_⟩
      rwa [Remembers, eraseDups_concat, List.take_append_of_le_length hfull]

/-- Asking for many shapes gives the groups of each. -/
theorem Remembers.lookUpAll (h : c.Remembers asked) (more : List ValuesShape) :
    (c.lookUpAll more).1 = more.map ValuesShape.groups ∧
      (c.lookUpAll more).2.capacity = c.capacity ∧ (c.lookUpAll more).2.Remembers (asked ++ more) := by
  induction more generalizing c asked with
  | nil => exact ⟨rfl, rfl, by rwa [List.append_nil]⟩
  | cons s more ih =>
    obtain ⟨hanswer, hcapacity, hremembers⟩ := h.lookUp s
    obtain ⟨hanswers, hcapacities, hall⟩ := ih hremembers
    have hstep : c.lookUpAll (s :: more) = ((c.lookUp s).1 :: ((c.lookUp s).2.lookUpAll more).1,
        ((c.lookUp s).2.lookUpAll more).2) := rfl
    rw [hstep, hanswer, hanswers]
    refine ⟨rfl, hcapacities.trans hcapacity, ?_⟩
    rwa [List.append_assoc] at hall

/-- A cache answers as if it were none: whatever shapes it is asked for, each answer is the groups of its
shape. It holds the groups of the shapes that were asked for first, of no more than its capacity, and what it
holds it keeps. The groups of a shape are one for each row, with commas between them, and each is its
placeholders in parentheses, with commas between them, numbered through. Groups of one dialect are those of
different shapes only if there is no row, or no placeholder in the rows. -/
theorem lookUpAll_exact (capacity : Nat) (asked more : List ValuesShape) :
    ((empty capacity).lookUpAll asked).1 = asked.map ValuesShape.groups ∧
    ((empty capacity).lookUpAll asked).2.entries =
      (asked.eraseDups.take capacity).map (fun s => (s, s.groups)) ∧
    ((empty capacity).lookUpAll asked).2.entries.length ≤ capacity ∧
    (∀ s text, ((empty capacity).lookUpAll asked).2.entries.lookup s = some text →
      ((empty capacity).lookUpAll (asked ++ more)).2.entries.lookup s = some text) ∧
    (∀ s : ValuesShape, s.groups = ", ".intercalate ((List.range s.rows).map fun i =>
      "(" ++ ", ".intercalate ((List.range s.width).map fun j =>
        s.dialect.placeholder (s.start + i * s.width + j)) ++ ")")) ∧
    ∀ (d : Dialect) (rows width start rows' width' start' : Nat),
      (ValuesShape.mk d rows width start).groups = (ValuesShape.mk d rows' width' start').groups ↔
        rows = rows' ∧ (rows = 0 ∨ width = width' ∧ (width = 0 ∨ start = start')) := by
  obtain ⟨hanswers, hcapacity, hearly⟩ := (remembers_empty capacity).lookUpAll asked
  obtain ⟨-, hcapacity', hlate⟩ := (remembers_empty capacity).lookUpAll (asked ++ more)
  have hlength := hearly.length_le
  refine ⟨hanswers, ?_, by rwa [hcapacity] at hlength, fun s text htext => ?_,
    ValuesShape.groups_eq_valueGroups, ValuesShape.groups_eq_iff⟩
  · rw [Remembers, hcapacity] at hearly
    exact hearly
  · obtain ⟨hs, rfl⟩ := hearly.lookup_eq_some_iff.1 htext
    refine hlate.lookup_eq_some_iff.2 ⟨?_, rfl⟩
    rw [hcapacity] at hs
    rw [hcapacity', List.nil_append, List.eraseDups_append, List.take_append]
    exact List.mem_append_left _ hs

/-- A cache for one shape keeps the first of two. -/
theorem lookUpAll_exact_pair :
    ((empty 1).lookUpAll [⟨.postgres, 1, 2, 9⟩, ⟨.sqlServer, 2, 1, 1⟩]).2.entries.lookup
        ⟨.postgres, 1, 2, 9⟩ = some "($9, $10)" ∧
      ((empty 1).lookUpAll ([⟨.postgres, 1, 2, 9⟩, ⟨.sqlServer, 2, 1, 1⟩] ++
        [⟨.sqlServer, 2, 1, 1⟩])).2.entries.lookup ⟨.postgres, 1, 2, 9⟩ = some "($9, $10)" := by
  have hkept : ((empty 1).lookUpAll [⟨.postgres, 1, 2, 9⟩, ⟨.sqlServer, 2, 1, 1⟩]).2.entries.lookup
      ⟨.postgres, 1, 2, 9⟩ = some "($9, $10)" := by decide +kernel
  exact ⟨hkept, (lookUpAll_exact 1 _ _).2.2.2.1 _ _ hkept⟩

end ValuesCache

end Tablewright.Sql
