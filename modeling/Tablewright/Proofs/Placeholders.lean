import Tablewright.Proofs.PlainNames
import Tablewright.Sql.Values
import Tablewright.Table.Basic

/-!
# Placeholders

A placeholder is a mark and a plain name behind it; the values of a row are placeholders between
parentheses. Both lack all but a few characters, so that a statement is cut in front of its
placeholders or behind them.

## Key results

- `isPlaceholder_named`, `isPlaceholder_placeholder`: what the dialects write are placeholders
- `clear_groups`: the values of rows are clear of a separator that begins with a blank
- `toList_valueGroups`: the values of many rows are groups of placeholders
-/

namespace Tablewright.Sql

/-- A text of a mark and a plain name. -/
def IsPlaceholder (p : List Char) : Prop :=
  ∃ (mark : Char) (name : String), mark ∈ ['@', '$'] ∧ isPlainName name = true ∧
    p = mark :: name.toList

theorem isPlaceholder_placeholder (d : Dialect) (n : Nat) : IsPlaceholder (d.placeholder n).toList := by
  cases d with
  | sqlServer =>
    have hname := isPlainName_append (by decide : isPlainName "p" = true) (isPlainName_numeral n)
    refine ⟨'@', "p" ++ Text.numeral n, by decide, hname, ?_⟩
    rw [Dialect.placeholder, String.toList_append, String.toList_append]
    rfl
  | postgres =>
    refine ⟨'$', Text.numeral n, by decide, isPlainName_numeral n, ?_⟩
    rw [Dialect.placeholder, String.toList_append]
    rfl

/-- Different numbers have different placeholders. -/
theorem placeholder_inj {d : Dialect} {m n : Nat} (h : d.placeholder m = d.placeholder n) : m = n := by
  cases d <;> exact Text.numeral_inj ((String.append_right_inj _).1 h)

theorem isPlaceholder_named (d : Dialect) {name : String} (h : isPlainName name = true) (n : Nat) :
    IsPlaceholder (d.namedPlaceholder name n).toList := by
  cases d with
  | sqlServer =>
    refine ⟨'@', name, by decide, h, ?_⟩
    rw [Dialect.namedPlaceholder, String.toList_append]
    rfl
  | postgres => exact isPlaceholder_placeholder .postgres n

/-- The name of a column's parameter is plain, whatever the name of the column. -/
theorem isPlainName_parameterName (c : Column) : isPlainName c.parameterName = true := by
  rw [isPlainName, Column.parameterName, Column.parameterNameOf, String.toList_ofList, List.all_map,
    List.all_eq_true]
  intro x _
  rw [Function.comp_apply]
  by_cases hx : Text.isAsciiWord x = true
  · rw [if_pos hx, hx]
  · rw [if_neg hx]
    decide

variable {p : List Char} {sep : List Char} {x : Char}

theorem IsPlaceholder.notMem (h : IsPlaceholder p) (hx : isNameChar x = false)
    (hmark : x ∉ ['@', '$']) : x ∉ p := by
  obtain ⟨mark, name, hm, hname, rfl⟩ := h
  intro hmem
  rcases List.mem_cons.1 hmem with rfl | hmem
  · exact hmark hm
  · exact notMem_of_isSimpleName hx (isSimpleName_of_isPlainName hname) hmem

/-! ## Separators -/

/-- Whether a text begins with a blank and lacks the marks and the parenthesis before a value. -/
def isBlankSeparator : List Char → Bool
  | [] => false
  | c :: s => c == ' ' && s.all fun c => c != '@' && c != '$' && c != '('

theorem blank_of_isBlankSeparator (h : isBlankSeparator sep = true) :
    ∃ rest, sep = ' ' :: rest ∧ '(' ∉ sep ∧ ∀ mark ∈ ['@', '$'], mark ∉ sep := by
  cases sep with
  | nil => exact absurd h (by decide)
  | cons c rest =>
    rw [isBlankSeparator, Bool.and_eq_true, List.all_eq_true] at h
    obtain ⟨hc, hrest⟩ := h
    have hc : c = ' ' := by simpa using hc
    subst hc
    -- None of the characters that begin a value or a row is allowed in the separator.
    have hnot {x : Char} (hx : (x != '@' && x != '$' && x != '(') = false) (hblank : x ≠ ' ') :
        x ∉ ' ' :: rest := by
      intro hm
      rcases List.mem_cons.1 hm with rfl | hm
      · exact hblank rfl
      · rw [hrest x hm] at hx
        exact Bool.noConfusion hx
    refine ⟨rest, rfl, hnot (by decide) (by decide), fun mark hm => ?_⟩
    rcases List.mem_cons.1 hm with rfl | hm
    · exact hnot (by decide) (by decide)
    · rw [List.mem_singleton.1 hm]
      exact hnot (by decide) (by decide)

/-- Words and a placeholder behind them are clear of a separator that the words lack. -/
theorem clear_word_placeholder (hsep : isBlankSeparator sep = true) (h : IsPlaceholder p)
    {w : List Char} (hw : Text.contains sep w = false) : Text.Clear sep (w ++ p) := by
  obtain ⟨rest, rfl, -, hmarks⟩ := blank_of_isBlankSeparator hsep
  obtain ⟨mark, name, hm, hname, rfl⟩ := h
  refine Text.clear_append_cons (hmarks mark hm) hw (Text.clear_of_notMem ?_)
  exact notMem_of_isSimpleName (by decide) (isSimpleName_of_isPlainName hname)

/-! ## Groups of placeholders -/

/-- The values of a row: placeholders in parentheses. -/
def groupText (placeholders : List (List Char)) : List Char :=
  '(' :: (", ".toList.intercalate placeholders ++ [')'])

/-- The values of rows, behind the words in front of them. -/
theorem clear_groups (hsep : isBlankSeparator sep = true) (hcomma : Text.contains sep ", ".toList = false)
    {w : List Char} (hw : Text.contains sep w = false) {group : List (List Char)}
    {groups : List (List (List Char))} (h : ∀ g ∈ group :: groups, ∀ p ∈ g, IsPlaceholder p) :
    Text.Clear sep (w ++ ", ".toList.intercalate ((group :: groups).map groupText)) := by
  obtain ⟨rest, hrest, hparen, -⟩ := blank_of_isBlankSeparator hsep
  have hnil : Text.contains sep [] = false := by
    rw [hrest]
    rfl
  have hbody : ∀ g ∈ group :: groups, Text.Clear sep (", ".toList.intercalate g ++ [')']) := by
    intro g hg
    refine Text.clear_append (Text.clear_intercalate (fun p hp => ?_) fun p hp => ?_) ?_
    · exact clear_word_placeholder hsep (h g hg p hp) hnil
    · exact clear_word_placeholder hsep (h g hg p hp) hcomma
    · rw [hrest]
      exact Text.clear_of_notMem (by decide)
  rw [List.map_cons, Text.intercalate_cons_eq, groupText, List.cons_append]
  -- The parenthesis in front of each row ends what could be the beginning of the separator.
  refine Text.clear_append_cons hparen hw (Text.clear_append (hbody group List.mem_cons_self) ?_)
  refine Text.clear_flatMap fun text htext => ?_
  obtain ⟨g, hg, rfl⟩ := List.mem_map.1 htext
  exact Text.clear_append_cons hparen hcomma (hbody g (List.mem_cons_of_mem _ hg))

/-- A character without a place in a value stands nowhere in the values of rows. -/
theorem notMem_groups (hx : isNameChar x = false) (hmark : x ∉ "@$(, )".toList)
    {groups : List (List (List Char))} (h : ∀ g ∈ groups, ∀ p ∈ g, IsPlaceholder p) :
    x ∉ ", ".toList.intercalate (groups.map groupText) := by
  have hsub {s : String} (hs : (s.toList.all "@$(, )".toList.contains) = true) : x ∉ s.toList :=
    fun hm => hmark (List.contains_iff_mem.1 (List.all_eq_true.1 hs x hm))
  have hcomma := hsub (s := ", ") (by decide)
  refine Text.notMem_intercalate hcomma fun text htext => ?_
  obtain ⟨g, hg, rfl⟩ := List.mem_map.1 htext
  rw [groupText]
  intro hm
  rcases List.mem_cons.1 hm with rfl | hm
  · exact hmark (by decide)
  · rcases List.mem_append.1 hm with hm | hm
    · refine Text.notMem_intercalate hcomma (fun p hp => ?_) hm
      exact (h g hg p hp).notMem hx (hsub (s := "@$") (by decide))
    · rw [List.mem_singleton.1 hm] at hmark
      exact hmark (by decide)

/-- The numbered placeholders of a row. -/
def numbered (d : Dialect) (width start : Nat) : List (List Char) :=
  (List.range width).map fun i => (d.placeholder (start + i)).toList

theorem isPlaceholder_numbered (d : Dialect) (width start : Nat) :
    ∀ p ∈ numbered d width start, IsPlaceholder p := by
  intro p hp
  obtain ⟨i, -, rfl⟩ := List.mem_map.1 hp
  exact isPlaceholder_placeholder d _

theorem toList_valueGroup (d : Dialect) (width start : Nat) :
    (valueGroup d width start).toList = groupText (numbered d width start) := by
  rw [valueGroup, String.toList_append, String.toList_append, String.toList_intercalate, List.map_map]
  rfl

/-- The values of many rows are groups of placeholders. -/
theorem toList_valueGroups (d : Dialect) (rows width start : Nat) :
    (valueGroups d rows width start).toList = ", ".toList.intercalate
      (((List.range rows).map fun i => numbered d width (start + i * width)).map groupText) := by
  rw [valueGroups, String.toList_intercalate, List.map_map, List.map_map]
  congr 1
  exact List.map_congr_left fun i _ => toList_valueGroup d width _

end Tablewright.Sql
