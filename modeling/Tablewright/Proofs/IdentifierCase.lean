import Tablewright.Generate.Code
import Tablewright.Proofs.WordsOfNames

/-!
# Identifiers in another letter case

The small letters and the capitals of characters that identifiers have are such characters again, and one
that begins identifiers becomes one or more characters of which the first does. This is read off the tables
of letters. A name that is taken apart into words, changed in case and put together with underscores is
therefore an identifier again: it begins as the name did, or with an underscore.

## Key results

- `keepsWords_lowerCase`, `keepsWords_upperCase`: a change of case keeps identifiers
- `isWord_snakeCase`, `isWord_constantCase`: so do snake case and constant case
-/

namespace Tablewright.Text

open Code

/-! ## Words -/

theorem isIdentifierContinue_of_start {c : Char} (h : isIdentifierStart c = true) :
    isIdentifierContinue c = true := by
  rw [isIdentifierStart] at h
  rw [isIdentifierContinue]
  split at h
  · rename_i hascii
    rw [if_pos hascii, isIdentifierContinue.isAsciiIdentifier, Char.isAlphanum]
    rcases Bool.or_eq_true_iff.1 h with h | h <;> simp [h]
  · rename_i hascii
    rw [if_neg hascii, h, Bool.true_or]

theorem isWord_cons {c : Char} {s : List Char} : isWord (c :: s) = true ↔
    isIdentifierStart c = true ∧ s.all isIdentifierContinue = true :=
  Bool.and_eq_true_iff

/-- An identifier is not empty. -/
theorem exists_cons_of_isWord {s : List Char} (h : isWord s = true) : ∃ c rest, s = c :: rest :=
  List.exists_cons_of_ne_nil fun hnil => by simp [hnil, isWord] at h

theorem all_of_isWord {s : List Char} (h : isWord s = true) : s.all isIdentifierContinue = true := by
  obtain ⟨c, rest, rfl⟩ := exists_cons_of_isWord h
  obtain ⟨hc, hrest⟩ := isWord_cons.1 h
  rw [List.all_cons, isIdentifierContinue_of_start hc, hrest, Bool.true_and]

theorem isWord_append {s t : List Char} (hs : isWord s = true) (ht : t.all isIdentifierContinue = true) :
    isWord (s ++ t) = true := by
  obtain ⟨c, rest, rfl⟩ := exists_cons_of_isWord hs
  obtain ⟨hc, hrest⟩ := isWord_cons.1 hs
  have hall : (rest ++ t).all isIdentifierContinue = true := by
    rw [List.all_append, hrest, ht, Bool.true_and]
  exact isWord_cons.2 ⟨hc, hall⟩

theorem isIdentifierStart_underscore : isIdentifierStart '_' = true := by decide

theorem all_intercalate {parts : List (List Char)}
    (h : ∀ p ∈ parts, p.all isIdentifierContinue = true) :
    (['_'].intercalate parts).all isIdentifierContinue = true := by
  have hunderscore := isIdentifierContinue_of_start isIdentifierStart_underscore
  cases parts with
  | nil => rfl
  | cons p parts =>
    obtain ⟨hp, hparts⟩ := List.forall_mem_cons.1 h
    rw [intercalate_cons_eq, List.all_append, hp, Bool.true_and, List.all_flatMap]
    exact List.all_eq_true.2 fun q hq => Bool.and_eq_true_iff.2 ⟨hunderscore, hparts q hq⟩

/-! ## Tables of letters -/

/-- Where a run of a table has a character of identifiers, it takes it to one that begins them. -/
def shiftsToStarts (run : Nat × Nat × Nat × Int) : Bool :=
  let (first, last, step, distance) := run
  (List.range ((last - first) / step + 1)).all fun k =>
    isIdentifierStart (Char.ofNat ((first + step * k : Nat) + distance).toNat) ||
      !isIdentifierContinue (Char.ofNat (first + step * k))

theorem lowerRuns_shiftToStarts : lowerRuns.all shiftsToStarts = true := by decide +kernel

theorem upperRuns_shiftToStarts : upperRuns.all shiftsToStarts = true := by decide +kernel

theorem upperExpansions_keepWords : (upperExpansions.all fun e =>
    isWord (e.2.map Char.ofNat) || !isIdentifierContinue (Char.ofNat e.1)) = true := by
  decide +kernel

theorem ascii_keepsWords : ∀ n < 0x80,
    (isIdentifierContinue (Char.ofNat n) = true → isIdentifierContinue (Char.ofNat n).toLower = true ∧
      isIdentifierContinue (Char.ofNat n).toUpper = true) ∧
    (isIdentifierStart (Char.ofNat n) = true → isIdentifierStart (Char.ofNat n).toLower = true ∧
      isIdentifierStart (Char.ofNat n).toUpper = true) := by
  decide

theorem isIdentifierStart_of_shifted? {table : Array (Nat × Nat × Nat × Int)} {c d : Char}
    (htable : table.all shiftsToStarts = true) (h : shifted? table c.toNat = some d)
    (hc : isIdentifierContinue c = true) : isIdentifierStart d = true := by
  obtain ⟨⟨first, last, step, distance⟩, hrun, rfl⟩ := Option.map_eq_some_iff.1 h
  have hcovers := Array.find?_some hrun
  have hshifts := Array.all_eq_true_iff_forall_mem.1 htable _ (Array.mem_of_find?_eq_some hrun)
  simp only [Bool.and_eq_true, decide_eq_true_eq, beq_iff_eq] at hcovers
  obtain ⟨⟨hfirst, hlast⟩, hstep⟩ := hcovers
  -- The character is as many steps into the run as this quotient says.
  have hmem : (c.toNat - first) / step ∈ List.range ((last - first) / step + 1) :=
    List.mem_range.2 (Nat.lt_succ_of_le (Nat.div_le_div_right (Nat.sub_le_sub_right hlast first)))
  have hplace : first + step * ((c.toNat - first) / step) = c.toNat := by
    rw [Nat.mul_div_cancel' (Nat.dvd_of_mod_eq_zero hstep), Nat.add_sub_cancel' hfirst]
  have himage := List.all_eq_true.1 hshifts _ hmem
  simpa only [hplace, Char.ofNat_toNat, hc, Bool.not_true, Bool.or_false] using himage

/-- A change of a character keeps identifiers. -/
structure KeepsLetter (c : Char) (image : List Char) : Prop where
  continues : isIdentifierContinue c = true → image.all isIdentifierContinue = true
  starts : isIdentifierStart c = true → isWord image = true

theorem KeepsLetter.of_isWord {c : Char} {image : List Char}
    (h : isIdentifierContinue c = true → isWord image = true) : KeepsLetter c image :=
  ⟨fun hc => all_of_isWord (h hc), fun hc => h (isIdentifierContinue_of_start hc)⟩

theorem KeepsLetter.singleton {c d : Char} (hcontinues : isIdentifierContinue c = true →
    isIdentifierContinue d = true) (hstarts : isIdentifierStart c = true → isIdentifierStart d = true) :
    KeepsLetter c [d] :=
  ⟨fun hc => by simp [hcontinues hc], fun hc => isWord_cons.2 ⟨hstarts hc, rfl⟩⟩

theorem keepsLetter_shifted {table : Array (Nat × Nat × Nat × Int)}
    (htable : table.all shiftsToStarts = true) (c : Char) :
    KeepsLetter c [(shifted? table c.toNat).getD c] := by
  cases hshifted : shifted? table c.toNat with
  | none => exact .singleton id id
  | some d =>
    have hd (hc : isIdentifierContinue c = true) := isIdentifierStart_of_shifted? htable hshifted hc
    exact .of_isWord fun hc => isWord_cons.2 ⟨hd hc, rfl⟩

theorem keepsLetter_lowerChar (c : Char) : KeepsLetter c (lowerChar c) := by
  rw [lowerChar]
  split
  · rename_i hascii
    have h := ascii_keepsWords _ hascii
    rw [Char.ofNat_toNat] at h
    exact .singleton (fun hc => (h.1 hc).1) fun hc => (h.2 hc).1
  · split
    · exact .of_isWord fun _ => by decide +kernel
    · exact keepsLetter_shifted lowerRuns_shiftToStarts c

theorem keepsLetter_upperChar (c : Char) : KeepsLetter c (upperChar c) := by
  rw [upperChar]
  split
  · rename_i hascii
    have h := ascii_keepsWords _ hascii
    rw [Char.ofNat_toNat] at h
    exact .singleton (fun hc => (h.1 hc).2) fun hc => (h.2 hc).2
  · split
    · rename_i code text hfound
      refine .of_isWord fun hc => ?_
      have htext := Array.all_eq_true_iff_forall_mem.1 upperExpansions_keepWords _
        (Array.mem_of_find?_eq_some hfound)
      have hcode : code = c.toNat := by simpa using Array.find?_some hfound
      simpa only [hcode, Char.ofNat_toNat, hc, Bool.not_true, Bool.or_false] using htext
    · exact keepsLetter_shifted upperRuns_shiftToStarts c

/-! ## Changes of case -/

/-- A change of texts keeps identifiers and their parts. -/
structure KeepsWords (f : List Char → List Char) : Prop where
  nil : f [] = []
  continues : ∀ {s}, s.all isIdentifierContinue = true → (f s).all isIdentifierContinue = true
  word : ∀ {s}, isWord s = true → isWord (f s) = true

theorem all_lowerCaseAfter {s : List Char} (h : s.all isIdentifierContinue = true) (cased : Bool) :
    (lowerCaseAfter cased s).all isIdentifierContinue = true := by
  induction s generalizing cased with
  | nil => rfl
  | cons c s ih =>
    obtain ⟨hc, hs⟩ := Bool.and_eq_true_iff.1 (List.all_cons.symm.trans h)
    rw [lowerCaseAfter, List.all_append, ih hs, Bool.and_true]
    split
    · decide +kernel
    · exact (keepsLetter_lowerChar c).continues hc

theorem keepsWords_lowerCase : KeepsWords lowerCase where
  nil := rfl
  continues h := all_lowerCaseAfter h false
  word {s} h := by
    obtain ⟨c, rest, rfl⟩ := exists_cons_of_isWord h
    obtain ⟨hc, hrest⟩ := isWord_cons.1 h
    -- The first letter is no sigma at the end of a word: nothing with case is in front of it.
    have hfirst : lowerCase (c :: rest) = lowerChar c ++ lowerCaseAfter (isCased c) rest := by
      simp [lowerCase, lowerCaseAfter]
    rw [hfirst]
    exact isWord_append ((keepsLetter_lowerChar c).starts hc) (all_lowerCaseAfter hrest _)

theorem all_upperCase {s : List Char} (h : s.all isIdentifierContinue = true) :
    (upperCase s).all isIdentifierContinue = true := by
  rw [upperCase, List.all_flatMap]
  exact List.all_eq_true.2 fun c hc => (keepsLetter_upperChar c).continues (List.all_eq_true.1 h c hc)

theorem keepsWords_upperCase : KeepsWords upperCase where
  nil := rfl
  continues h := all_upperCase h
  word {s} h := by
    obtain ⟨c, rest, rfl⟩ := exists_cons_of_isWord h
    obtain ⟨hc, hrest⟩ := isWord_cons.1 h
    exact isWord_append ((keepsLetter_upperChar c).starts hc) (all_upperCase hrest)

/-! ## Names -/

theorem flatten_glyphs (s : List Char) : (glyphs s).flatten = s := by
  induction s with
  | nil => rfl
  | cons c s ih =>
    cases s with
    | nil => rfl
    | cons d s =>
      obtain ⟨marks, rest, hfirst, hjoined⟩ := glyphs_cons_cons c d s
      rw [hfirst] at ih
      rw [hjoined]
      split <;> simpa using ih

/-- The characters of words are characters of the name. -/
theorem mem_of_mem_words {s w : List Char} (hw : w ∈ words s) {c : Char} (hc : c ∈ w) : c ∈ s := by
  refine Classical.not_not.1 fun hnot => ?_
  refine notMem_wordsOfGlyphs List.not_mem_nil (fun g hg _ hmem => hnot ?_) w hw hc
  rw [← flatten_glyphs s]
  exact List.mem_flatten.2 ⟨g, hg, hmem⟩

theorem all_of_mem_words {s w : List Char} (h : s.all isIdentifierContinue = true) (hw : w ∈ words s) :
    w.all isIdentifierContinue = true :=
  List.all_eq_true.2 fun _ hc => List.all_eq_true.1 h _ (mem_of_mem_words hw hc)

/-- What was read before stands in front of the first word. -/
theorem wordsOfGlyphs_eq_cons (word : List Char) (gs : List Glyph) :
    ∃ rest ws, wordsOfGlyphs word gs = (word ++ rest) :: ws := by
  fun_induction wordsOfGlyphs word gs with
  | case1 word => exact ⟨[], [], by rw [List.append_nil]⟩
  | case2 word a rest ha ih => exact ⟨[], _, by rw [List.append_nil]⟩
  | case3 word a ha => exact ⟨a, [], rfl⟩
  | case4 word a ha b behind hbreaks ih => exact ⟨a, _, rfl⟩
  | case5 word a ha b behind hbreaks ih =>
    obtain ⟨rest, ws, hwords⟩ := ih
    exact ⟨a ++ rest, ws, by rw [hwords, List.append_assoc]⟩

/-- The first word begins as the name does, or it is empty and there is another one. -/
theorem words_cons (c : Char) (s : List Char) :
    (∃ rest ws, words (c :: s) = (c :: rest) :: ws) ∨ ∃ w ws, words (c :: s) = [] :: w :: ws := by
  obtain ⟨marks, gs, hglyphs⟩ : ∃ marks gs, glyphs (c :: s) = (c :: marks) :: gs := by
    cases s with
    | nil => exact ⟨[], [], rfl⟩
    | cons d s =>
      obtain ⟨marks, gs, -, hjoined⟩ := glyphs_cons_cons c d s
      rw [hjoined]
      split <;> exact ⟨_, _, rfl⟩
  rw [words, hglyphs, wordsOfGlyphs.eq_def]
  by_cases hseparator : Glyph.isSeparator (c :: marks) = true
  · obtain ⟨w, ws, hws⟩ := List.exists_cons_of_ne_nil (wordsOfGlyphs_ne_nil [] gs)
    exact .inr ⟨w, ws, by simp [hseparator, hws]⟩
  · left
    simp only [hseparator, Bool.false_eq_true, if_false]
    split
    · exact ⟨marks, [], rfl⟩
    · split
      · exact ⟨marks, _, rfl⟩
      · obtain ⟨rest, ws, hws⟩ := wordsOfGlyphs_eq_cons (c :: marks) (_ :: _)
        exact ⟨_, ws, hws⟩

variable {f : List Char → List Char} {name : String}

theorem all_intercalate_words (hf : KeepsWords f) {s : List Char}
    (h : s.all isIdentifierContinue = true) :
    (['_'].intercalate ((words s).map f)).all isIdentifierContinue = true :=
  all_intercalate (List.forall_mem_map.2 fun _ hw => hf.continues (all_of_mem_words h hw))

/-- The words of an identifier, changed in case and put together again, are one. -/
theorem isWord_intercalate_words (hf : KeepsWords f) {s : List Char} (h : isWord s = true) :
    isWord (['_'].intercalate ((words s).map f)) = true := by
  have hall := all_intercalate_words hf (all_of_isWord h)
  have hwords := @all_of_mem_words s
  obtain ⟨c, s, rfl⟩ := exists_cons_of_isWord h
  obtain ⟨rest, ws, hfirst⟩ | ⟨w, ws, hfirst⟩ := words_cons c s
  · have hrest := hwords (all_of_isWord h) (hfirst ▸ List.mem_cons_self)
    have hword : isWord (f (c :: rest)) = true :=
      hf.word (isWord_cons.2 ⟨(isWord_cons.1 h).1, (Bool.and_eq_true_iff.1 hrest).2⟩)
    rw [hfirst, List.map_cons, intercalate_cons_eq, List.all_append] at hall
    rw [hfirst, List.map_cons, intercalate_cons_eq]
    exact isWord_append hword (Bool.and_eq_true_iff.1 hall).2
  · rw [hfirst, List.map_cons, List.map_cons, hf.nil, List.intercalate_cons_cons] at hall ⊢
    exact isWord_cons.2 ⟨isIdentifierStart_underscore, (Bool.and_eq_true_iff.1 hall).2⟩

theorem all_snakeCase (h : name.toList.all isIdentifierContinue = true) :
    (snakeCase name).toList.all isIdentifierContinue = true := by
  rw [snakeCase, String.toList_ofList]
  exact all_intercalate_words keepsWords_lowerCase h

theorem isWord_snakeCase (h : isWord name.toList = true) : isWord (snakeCase name).toList = true := by
  rw [snakeCase, String.toList_ofList]
  exact isWord_intercalate_words keepsWords_lowerCase h

theorem isWord_constantCase (h : isWord name.toList = true) :
    isWord (constantCase name).toList = true := by
  rw [constantCase, String.toList_ofList]
  exact isWord_intercalate_words keepsWords_upperCase h

end Tablewright.Text
