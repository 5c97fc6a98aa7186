import Tablewright.Proofs.StatementText
import Tablewright.Table.Texts

/-!
# Lists of columns in a statement's text

The lists of columns of a statement are all of one form: for each column some words, its quoted name
and more text, with a separator between each two. `listed` is that form; `clear_listed` and
`split_listed` cut statements behind such lists and the lists between their columns.

## Key results

- `chars_columnList`, `chars_columnListOf`, `chars_keyMatch`: the lists of the statements are of that
  form
- `clear_listed`: a list is clear of a separator that its words lack
- `split_listed`: a list falls apart between its columns
-/

namespace Tablewright.Sql

/-- The text of a list of columns: words in front of each quoted name and text behind it. -/
def listed (d : Dialect) (between lead : List Char) (tail : Column → List Char)
    (columns : List Column) : List Char :=
  between.intercalate (columns.map fun c => lead ++ ((d.quote c.name).toList ++ tail c))

variable {d : Dialect} {sep between lead : List Char} {tail : Column → List Char}
  {columns : List Column}

/-- A list is clear of a separator that its words lack, also behind the text between its columns. -/
theorem clear_listed (hsep : isSeparator sep = true)
    (hsimple : ∀ c ∈ columns, isSimpleName c.name = true)
    (hlead : Text.contains sep lead = false) (hbetween : Text.contains sep (between ++ lead) = false)
    (htail : ∀ c ∈ columns, Text.Clear sep (tail c)) :
    Text.Clear sep (listed d between lead tail columns) := by
  refine Text.clear_intercalate ?_ ?_
  · intro p hp
    obtain ⟨c, hc, rfl⟩ := List.mem_map.1 hp
    rw [← List.append_assoc]
    exact Text.clear_append (clear_word_quote d hsep (hsimple c hc) hlead) (htail c hc)
  · intro p hp
    obtain ⟨c, hc, rfl⟩ := List.mem_map.1 hp
    rw [← List.append_assoc, ← List.append_assoc]
    exact Text.clear_append (clear_word_quote d hsep (hsimple c hc) hbetween) (htail c hc)

/-- A list falls apart between its columns. -/
theorem split_listed (hsep : isSeparator sep = true) (hne : columns ≠ [])
    (hsimple : ∀ c ∈ columns, isSimpleName c.name = true)
    (hlead : Text.contains sep lead = false)
    (htail : ∀ c ∈ columns, Text.Clear sep (tail c)) :
    Text.split sep (listed d sep lead tail columns) =
      columns.map fun c => lead ++ ((d.quote c.name).toList ++ tail c) := by
  refine Text.split_intercalate (ne_nil_of_isSeparator hsep) (by simpa using hne) ?_
  intro p hp
  obtain ⟨c, hc, rfl⟩ := List.mem_map.1 hp
  rw [← List.append_assoc]
  exact Text.clear_append (clear_word_quote d hsep (hsimple c hc) hlead) (htail c hc)

/-- A character that stands nowhere in the words stands nowhere in the list. -/
theorem notMem_listed {x : Char} (hsimple : ∀ c ∈ columns, isSimpleName c.name = true)
    (hx : isSeparator [x] = true) (hlead : x ∉ lead) (hbetween : x ∉ between)
    (htail : ∀ c ∈ columns, x ∉ tail c) : x ∉ listed d between lead tail columns := by
  refine Text.notMem_intercalate hbetween fun p hp hm => ?_
  obtain ⟨c, hc, rfl⟩ := List.mem_map.1 hp
  rcases List.mem_append.1 hm with hm | hm
  · exact hlead hm
  · rcases List.mem_append.1 hm with hm | hm
    · exact notMem_quote d hx (hsimple c hc) hm
    · exact htail c hc hm

/-! ## The lists of the statements -/

open Table

theorem chars_columnList (d : Dialect) (columns : List Column) :
    (columnList columns).chars d = listed d ", ".toList [] (fun _ => []) columns := by
  rw [columnList, Statement.chars_joined, List.map_map, listed]
  rfl

theorem chars_columnListOf (d : Dialect) (source : String) (columns : List Column) :
    (columnListOf source columns).chars d =
      listed d ", ".toList (source ++ ".").toList (fun _ => []) columns := by
  rw [columnListOf, Statement.chars_joined, List.map_map, listed]
  rfl

theorem chars_keyMatch (d : Dialect) (left right : String) (keys : List Column) :
    (keyMatch left right keys).chars d =
      listed d " AND ".toList (left ++ ".").toList
        (fun c => (" = " ++ right ++ ".").toList ++ (d.quote c.name).toList) keys := by
  rw [keyMatch, Statement.chars_joined, List.map_map, listed]
  congr 1
  refine List.map_congr_left fun c _ => ?_
  rw [Function.comp_apply, Statement.chars_word, Statement.chars_name, Statement.chars_word,
    Statement.chars_name, Statement.chars_nil, List.append_nil]

theorem legible_columnList (d : Dialect) (columns : List Column) :
    Statement.Legible d (columnList columns) := by
  refine Statement.legible_joined ?_ ?_ ?_
  · cases d <;> decide
  · cases d <;> decide
  · intro p hp
    obtain ⟨c, -, rfl⟩ := List.mem_map.1 hp
    simp [Statement.Legible, Statement.chars]

theorem names_columnList (columns : List Column) :
    (columnList columns).names = columns.map (·.name) := by
  rw [columnList, Statement.names_joined, List.flatMap_map]
  exact List.map_eq_flatMap.symm

/-- The names of a list are those of its columns. -/
theorem namesIn_columnList (d : Dialect) (columns : List Column) :
    namesIn d ((columnList columns).chars d) = columns.map (·.name) := by
  rw [namesIn_chars (legible_columnList d columns), names_columnList]

/-- Words behind a list add no names to it. -/
theorem namesIn_columnList_append (d : Dialect) (columns : List Column) {w : String}
    (hopen : d.openQuote ∉ w.toList) (hhead : w.toList.head? ≠ some d.closeQuote) :
    namesIn d ((columnList columns).chars d ++ w.toList) = columns.map (·.name) := by
  have hword : Statement.chars d [.word w] = w.toList := by
    rw [Statement.chars_word, Statement.chars_nil, List.append_nil]
  have hlegible : Statement.Legible d (columnList columns ++ [.word w]) :=
    Statement.legible_append (legible_columnList d columns) ⟨hopen, trivial⟩ (by rwa [hword])
  have hnames := namesIn_chars hlegible
  rw [Statement.chars_append, hword, Statement.names_append, names_columnList] at hnames
  rw [hnames]
  exact List.append_nil _

end Tablewright.Sql
