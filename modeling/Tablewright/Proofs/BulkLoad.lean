import Tablewright.Postgres.CopyReading
import Tablewright.Proofs.BulkLoadFields
import Tablewright.Proofs.Cutting

/-!
# Bulk loads

What a server reads of the lines of a bulk load, and how the lines lie in the chunks that are sent. A
quoted field is read up to its own end, whatever text it holds; every other field ends with the comma
or the line feed behind it. A chunk is a number of whole lines wherever the limit of its size falls.

## Key results

- `foldlM_copyLine`: a line is read as one row of the values written
- `exists_groups`: chunks are made of whole lines, one at least, and no line is lost
- `readCopy_rowChunks`: the chunks that are sent are read as the rows
-/

namespace Tablewright.Postgres

open CopyReader

variable {rows : List (List CopyCell)} {fields : List CopyCell}

/-! ## Fields -/

/-- A place at which a comma or a line feed ends a field that is read as a cell. -/
def CopyPlace.Holds (place : CopyPlace) (cell : CopyCell) : Prop :=
  ∀ rows fields,
    next ⟨rows, fields, place⟩ ',' = some ⟨rows, fields ++ [cell], .fieldStart⟩ ∧
    next ⟨rows, fields, place⟩ '\n' = some ⟨rows ++ [fields ++ [cell]], [], .fieldStart⟩

theorem holds_fieldStart : CopyPlace.fieldStart.Holds .null :=
  fun _ _ => ⟨rfl, rfl⟩

theorem holds_inBare (s : List Char) : (CopyPlace.inBare s).Holds (.bare (String.ofList s)) :=
  fun _ _ => ⟨rfl, rfl⟩

theorem holds_behindQuote (s : List Char) :
    (CopyPlace.behindQuote s).Holds (.quoted (String.ofList s)) :=
  fun _ _ => ⟨rfl, rfl⟩

theorem foldlM_inBare {s : List Char} (hs : s.all isFieldChar = true) (read : List Char) :
    s.foldlM next ⟨rows, fields, .inBare read⟩ = some ⟨rows, fields, .inBare (read ++ s)⟩ := by
  induction s generalizing read with
  | nil => simp
  | cons c s ih =>
    rw [List.all_cons, Bool.and_eq_true] at hs
    obtain ⟨⟨⟨hcomma, hquote⟩, hline⟩, -⟩ : ((c ≠ ',' ∧ c ≠ '"') ∧ c ≠ '\n') ∧ c ≠ '\r' := by
      simpa [isFieldChar] using hs.1
    have hnext : next ⟨rows, fields, .inBare read⟩ c =
        some ⟨rows, fields, .inBare (read ++ [c])⟩ := by
      simp [next, endField, hcomma, hquote, hline]
    rw [List.foldlM_cons, hnext]
    simpa using ih hs.2 (read ++ [c])

/-- A text without quotes is read as it is. -/
theorem foldlM_bare {s : List Char} (hs : IsBare s) :
    s.foldlM next ⟨rows, fields, .fieldStart⟩ = some ⟨rows, fields, .inBare s⟩ := by
  obtain ⟨hne, hall⟩ := hs
  obtain ⟨c, s, rfl⟩ := List.exists_cons_of_ne_nil hne
  rw [List.all_cons, Bool.and_eq_true] at hall
  obtain ⟨⟨⟨hcomma, hquote⟩, hline⟩, -⟩ : ((c ≠ ',' ∧ c ≠ '"') ∧ c ≠ '\n') ∧ c ≠ '\r' := by
    simpa [isFieldChar] using hall.1
  have hnext : next ⟨rows, fields, .fieldStart⟩ c = some ⟨rows, fields, .inBare [c]⟩ := by
    simp [next, endField, hcomma, hquote, hline]
  rw [List.foldlM_cons, hnext]
  exact foldlM_inBare hall.2 [c]

/-- Between quotes every character is read as it is, a doubled quote as one. -/
theorem foldlM_inQuotes (s read : List Char) :
    (s.flatMap fun c => if c = '"' then ['"', '"'] else [c]).foldlM next
        ⟨rows, fields, .inQuotes read⟩ = some ⟨rows, fields, .inQuotes (read ++ s)⟩ := by
  induction s generalizing read with
  | nil => simp
  | cons c s ih =>
    have hchar : (if c = '"' then ['"', '"'] else [c]).foldlM next ⟨rows, fields, .inQuotes read⟩ =
        some ⟨rows, fields, .inQuotes (read ++ [c])⟩ := by
      by_cases hc : c = '"'
      · simp [hc, next, endField]
      · simp [hc, next]
    rw [List.flatMap_cons, List.foldlM_append, hchar]
    simpa using ih (read ++ [c])

theorem foldlM_quotedField (s : List Char) :
    (quotedField s).foldlM next ⟨rows, fields, .fieldStart⟩ =
      some ⟨rows, fields, .behindQuote s⟩ := by
  have hopen : next ⟨rows, fields, .fieldStart⟩ '"' = some ⟨rows, fields, .inQuotes []⟩ := rfl
  have hclose : next ⟨rows, fields, .inQuotes s⟩ '"' = some ⟨rows, fields, .behindQuote s⟩ := rfl
  rw [quotedField, List.cons_append, List.foldlM_cons, hopen]
  show List.foldlM next _ (_ ++ [_]) = _
  rw [List.foldlM_append, foldlM_inQuotes, List.nil_append]
  simp [hclose]

/-- The field of a value is read as the value, once it is ended. -/
theorem foldlM_copyField (v : Value) : ∃ place : CopyPlace, place.Holds (.ofValue v) ∧
    ∀ rows fields, (copyField v).toList.foldlM next ⟨rows, fields, .fieldStart⟩ =
      some ⟨rows, fields, place⟩ := by
  have hbare (hnull : v ≠ .null) (htext : ∀ s, v ≠ .text s)
      (hcell : CopyCell.ofValue v = .bare (copyField v)) : ∃ place : CopyPlace,
      place.Holds (.ofValue v) ∧ ∀ rows fields,
        (copyField v).toList.foldlM next ⟨rows, fields, .fieldStart⟩ = some ⟨rows, fields, place⟩ := by
    have hholds := holds_inBare (copyField v).toList
    rw [String.ofList_toList, ← hcell] at hholds
    exact ⟨_, hholds, fun _ _ => foldlM_bare (isBare_copyField hnull htext)⟩
  cases v with
  | null => exact ⟨.fieldStart, holds_fieldStart, fun _ _ => rfl⟩
  | text s =>
    have hholds := holds_behindQuote s.toList
    rw [String.ofList_toList] at hholds
    refine ⟨_, hholds, fun rows fields => ?_⟩
    rw [copyField, String.toList_ofList]
    exact foldlM_quotedField s.toList
  | _ => exact hbare (by simp) (by simp) rfl

/-! ## Lines -/

theorem toList_copyLine (v : Value) (row : List Value) : (copyLine (v :: row)).toList =
    (copyField v).toList ++ row.flatMap (fun v => ',' :: (copyField v).toList) ++ ['\n'] := by
  have hcomma : ",".toList = [','] := by decide
  have hline : "\n".toList = ['\n'] := by decide
  rw [copyLine, String.toList_append, String.toList_intercalate, hline, hcomma, List.map_cons,
    List.map_cons, Text.intercalate_cons_eq, List.map_map, List.flatMap_map]
  rfl

/-- The fields behind one that is about to end. -/
theorem foldlM_fields {place : CopyPlace} {cell : CopyCell} (h : place.Holds cell) (row : List Value)
    (fields : List CopyCell) :
    (row.flatMap (fun v => ',' :: (copyField v).toList) ++ ['\n']).foldlM next ⟨rows, fields, place⟩ =
      some ⟨rows ++ [fields ++ cell :: row.map .ofValue], [], .fieldStart⟩ := by
  induction row generalizing place cell fields with
  | nil => simp [(h rows fields).2]
  | cons v row ih =>
    obtain ⟨place', hplace', hread⟩ := foldlM_copyField v
    -- The comma ends the field in front of it, and the next one takes its place.
    rw [List.flatMap_cons, List.cons_append, List.cons_append, List.foldlM_cons, (h rows fields).1]
    show List.foldlM next _ ((_ ++ _) ++ _) = _
    rw [List.append_assoc, List.foldlM_append, hread]
    show List.foldlM next _ _ = _
    rw [ih hplace' (fields ++ [cell])]
    simp

/-- A line is read as one row of the values written. -/
theorem foldlM_copyLine {row : List Value} (h : row ≠ []) (rows : List (List CopyCell)) :
    (copyLine row).toList.foldlM next ⟨rows, [], .fieldStart⟩ =
      some ⟨rows ++ [row.map .ofValue], [], .fieldStart⟩ := by
  obtain ⟨v, row, rfl⟩ := List.exists_cons_of_ne_nil h
  obtain ⟨place, hplace, hread⟩ := foldlM_copyField v
  rw [toList_copyLine, List.append_assoc, List.foldlM_append, hread]
  exact foldlM_fields hplace row []

theorem foldlM_copyLines {lines : List (List Value)} (h : ∀ row ∈ lines, row ≠ [])
    (rows : List (List CopyCell)) :
    (String.join (lines.map copyLine)).toList.foldlM next ⟨rows, [], .fieldStart⟩ =
      some ⟨rows ++ lines.map (·.map .ofValue), [], .fieldStart⟩ := by
  rw [String.toList_join, List.flatMap_map]
  induction lines generalizing rows with
  | nil => simp
  | cons row lines ih =>
    rw [List.flatMap_cons, List.foldlM_append, foldlM_copyLine (h row List.mem_cons_self)]
    show List.foldlM next _ _ = _
    rw [ih fun r hr => h r (List.mem_cons_of_mem _ hr)]
    simp

/-- Lines are read as the rows of the values written. -/
theorem readCopy_copyLines {lines : List (List Value)} (h : ∀ row ∈ lines, row ≠ []) :
    readCopy (String.join (lines.map copyLine)) = some (lines.map (·.map .ofValue)) := by
  rw [readCopy, CopyReader.start, foldlM_copyLines h]
  rfl

/-! ## Chunks -/

theorem copyLine_ne_empty (row : List Value) : copyLine row ≠ "" := by
  intro h
  have hlist := congrArg String.toList h
  rw [copyLine, String.toList_append] at hlist
  simp at hlist

theorem join_copyLine_eq_empty (rows : List (List Value)) :
    String.join (rows.map copyLine) = "" ↔ rows = [] := by
  cases rows with
  | nil => simp
  | cons row rows =>
    rw [List.map_cons, String.join_cons]
    simp [copyLine_ne_empty]

/-- Chunks are made of whole lines, at least one each, and the lines are all that there are, in their
order. What is pending is not sent yet; the induction goes along the lines that follow it. -/
theorem exists_groups (size : Nat) (pending rows : List (List Value)) :
    ∃ groups : List (List (List Value)), groups.flatten = pending ++ rows ∧ [] ∉ groups ∧
      copyChunks size (String.join (pending.map copyLine)) (rows.map copyLine) =
        groups.map fun group => String.join (group.map copyLine) := by
  induction rows generalizing pending with
  | nil =>
    by_cases hpending : pending = []
    · exact ⟨[], by simp [hpending], by simp, by simp [hpending, copyChunks]⟩
    · have hne : (String.join (pending.map copyLine)).isEmpty = false := by
        simpa [join_copyLine_eq_empty] using hpending
      refine ⟨[pending], by simp, by simpa using Ne.symm hpending, ?_⟩
      rw [List.map_nil, copyChunks, hne]
      rfl
  | cons row rows ih =>
    have hchunk : String.join (pending.map copyLine) ++ copyLine row =
        String.join ((pending ++ [row]).map copyLine) := by simp
    rw [List.map_cons, copyChunks, hchunk]
    split
    · -- The line fills the chunk, which is sent with it.
      obtain ⟨groups, hflat, hnil, hgroups⟩ := ih []
      refine ⟨(pending ++ [row]) :: groups, by simp [hflat], by simp [hnil], ?_⟩
      rw [List.map_cons, ← hgroups]
      rfl
    · obtain ⟨groups, hflat, hnil, hgroups⟩ := ih (pending ++ [row])
      exact ⟨groups, by simp [hflat], hnil, hgroups⟩

/-- The groups of lines, one after the other, are all lines. -/
theorem join_groups (groups : List (List (List Value))) :
    String.join (groups.map fun group => String.join (group.map copyLine)) =
      String.join (groups.flatten.map copyLine) := by
  induction groups with
  | nil => rfl
  | cons group groups ih =>
    rw [List.map_cons, String.join_cons, ih, List.flatten_cons, List.map_append, String.join_append]

/-- A bulk load loses nothing. The chunks that are sent, one after the other, are read as the rows: null
as null, a text as itself, every other value as a text that needs no quotes. Each chunk is a number of
whole rows, and none is empty. -/
theorem readCopy_rowChunks (rows : List (List Value)) (hrows : ∀ row ∈ rows, row ≠ []) :
    readCopy (String.join (rowChunks rows)) = some (rows.map (·.map CopyCell.ofValue)) ∧
    (∀ row ∈ rows, ∀ v ∈ row, v ≠ .null → (∀ s, v ≠ .text s) → IsBare (copyField v).toList) ∧
    "" ∉ rowChunks rows ∧
    ∃ groups : List (List (List Value)), groups.flatten = rows ∧
      rowChunks rows = groups.map (fun group => String.join (group.map copyLine)) ∧
      ∀ group ∈ groups, group ≠ [] ∧ readCopy (String.join (group.map copyLine)) =
        some (group.map (·.map CopyCell.ofValue)) := by
  obtain ⟨groups, hflat, hnil, hchunks⟩ := exists_groups chunkSize [] rows
  have hsent : rowChunks rows = groups.map fun group => String.join (group.map copyLine) := hchunks
  rw [List.nil_append] at hflat
  have hjoined : String.join (rowChunks rows) = String.join (rows.map copyLine) := by
    rw [hsent, join_groups, hflat]
  refine ⟨?_, fun _ _ _ _ hnull htext => isBare_copyField hnull htext, ?_, groups, hflat, hsent, ?_⟩
  · rw [hjoined]
    exact readCopy_copyLines hrows
  · rw [hsent, List.mem_map]
    rintro ⟨group, hgroup, hempty⟩
    rw [join_copyLine_eq_empty] at hempty
    exact hnil (hempty ▸ hgroup)
  · intro group hgroup
    refine ⟨fun hempty => hnil (hempty ▸ hgroup), readCopy_copyLines fun row hrow => hrows row ?_⟩
    rw [← hflat]
    exact List.mem_flatten.2 ⟨group, hgroup, hrow⟩

/-- A text with everything that could end its field, an empty text beside a null, and a number. -/
theorem readCopy_rowChunks_quotes :
    (∀ row ∈ [[Value.text "a \"b\",\n\\.", .text "", .null], [.null], [.int32 (-1)]], row ≠ []) ∧
    readCopy (String.join (rowChunks [[Value.text "a \"b\",\n\\.", .text "", .null], [.null],
        [.int32 (-1)]])) =
      some [[.quoted "a \"b\",\n\\.", .quoted "", .null], [.null], [.bare "-1"]] := by
  have hrows : ∀ row ∈ [[Value.text "a \"b\",\n\\.", .text "", .null], [.null], [.int32 (-1)]],
      row ≠ [] := by decide
  refine ⟨hrows, (readCopy_rowChunks _ hrows).1.trans ?_⟩
  decide +kernel

end Tablewright.Postgres
