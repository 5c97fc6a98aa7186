import Mathlib.Data.List.Chain
import Tablewright.Proofs.Cutting
import Tablewright.Text.Words

/-!
# Words of names

What snake case and constant case keep of a name: its words, in the small letters or the capitals that
they are written in. How the words were put together is lost, and an underscore between two names is no
more than the end of a word. So names are told apart by their words alone.

## Key results

- `words_intercalate`: the words of names with underscores between them
- `snakeCase_intercalate_eq_iff`, `constantCase_eq_iff`: which names become the same
-/

namespace Tablewright.Text

/-- The words of a name in small letters. -/
def smallWords (name : String) : List (List Char) := (words name.toList).map lowerCase

/-- The words of a name in capitals. -/
def capitalWords (name : String) : List (List Char) := (words name.toList).map upperCase

/-- No mark is set on an underscore: none follows one, and none begins the name, where an underscore
may be put in front of it. -/
def Unmarked (s : List Char) : Prop :=
  List.IsChain (fun a b => a = '_' → isExtender b = false) ('_' :: s)

instance (s : List Char) : Decidable (Unmarked s) :=
  inferInstanceAs (Decidable (List.IsChain _ _))

theorem isExtender_separator : isExtender '_' = false := by decide +kernel

theorem unmarked_append {s t : List Char} (hs : Unmarked s) (ht : Unmarked t) :
    Unmarked (s ++ '_' :: t) := by
  refine List.isChain_split.2 ⟨List.isChain_append.2 ⟨hs, List.isChain_singleton _, ?_⟩, ht⟩
  intro a _ b hb _
  rw [← Option.some.inj hb]
  exact isExtender_separator

/-! ## Glyphs -/

/-- The glyphs behind a character: the first of them joins that character if it begins with a mark. -/
theorem glyphs_cons_cons (c d : Char) (s : List Char) : ∃ marks rest,
    glyphs (d :: s) = (d :: marks) :: rest ∧
      glyphs (c :: d :: s) =
        if isExtender d then (c :: d :: marks) :: rest else [c] :: (d :: marks) :: rest := by
  have hfirst : ∃ marks rest, glyphs (d :: s) = (d :: marks) :: rest := by
    rw [glyphs]
    split
    · split <;> exact ⟨_, _, rfl⟩
    · exact ⟨_, _, rfl⟩
  obtain ⟨marks, rest, hfirst⟩ := hfirst
  exact ⟨marks, rest, hfirst, by rw [glyphs, hfirst]⟩

theorem glyphs_append (s : List Char) {t : List Char} (ht : Unmarked t) :
    glyphs (s ++ '_' :: t) = glyphs s ++ ['_'] :: glyphs t := by
  induction s with
  | nil =>
    cases t with
    | nil => rfl
    | cons d t =>
      -- Only here the name behind the underscore is looked at: it may not begin with a mark.
      have hd : isExtender d = false := (List.isChain_cons_cons.1 ht).1 rfl
      obtain ⟨marks, rest, hfirst, hjoined⟩ := glyphs_cons_cons '_' d t
      rw [List.nil_append, hjoined, hd, hfirst]
      rfl
  | cons c s ih =>
    cases s with
    | nil =>
      rw [List.nil_append] at ih
      rw [List.singleton_append, glyphs, ih]
      simp [glyphs, isExtender_separator]
    | cons d s =>
      obtain ⟨marks, rest, hfirst, hjoined⟩ := glyphs_cons_cons c d s
      rw [hfirst] at ih
      rw [List.cons_append, glyphs, ih, hjoined]
      cases h : isExtender d <;> simp [h]

/-- An underscore without a mark is a glyph of its own. -/
theorem eq_separator_of_mem_glyphs {s : List Char}
    (h : List.IsChain (fun a b => a = '_' → isExtender b = false) s) :
    ∀ g ∈ glyphs s, '_' ∈ g → g = ['_'] := by
  induction s with
  | nil => exact fun g hg => absurd hg List.not_mem_nil
  | cons c s ih =>
    cases s with
    | nil =>
      intro g hg hmem
      rw [List.mem_singleton.1 hg] at hmem ⊢
      rw [List.mem_singleton.1 hmem]
    | cons d s =>
      obtain ⟨hcd, hrest⟩ := List.isChain_cons_cons.1 h
      obtain ⟨marks, rest, hfirst, hjoined⟩ := glyphs_cons_cons c d s
      have ih := ih hrest
      rw [hfirst] at ih
      obtain ⟨ihfirst, ihrest⟩ := List.forall_mem_cons.1 ih
      rw [hjoined]
      split
      · -- The underscore cannot be the one that is extended, nor the mark or one behind it.
        rename_i hd
        refine List.forall_mem_cons.2 ⟨fun hmem => ?_, ihrest⟩
        obtain rfl | hmem := List.mem_cons.1 hmem
        · exact absurd (hcd rfl) (by simp [hd])
        · obtain rfl := (List.cons.inj (ihfirst hmem)).1
          exact absurd isExtender_separator (by simp [hd])
      · refine List.forall_mem_cons.2 ⟨fun hmem => ?_, ih⟩
        rw [List.mem_singleton.1 hmem]

/-! ## Words -/

theorem isLower_separator : Glyph.isLower ['_'] = false := by decide

/-- No word is broken in front of a separator: the separator ends it. -/
theorem breaksBetween_separator (a : Glyph) (behind : Option Glyph) :
    breaksBetween a ['_'] behind = false := by
  have hupper : Glyph.isUpper ['_'] = false := by decide
  have hdigit : Glyph.isDigit ['_'] = false := by decide
  simp [breaksBetween, hupper, isLower_separator, hdigit]

/-- A separator behind two glyphs is like the end of the name to them. -/
theorem breaksBetween_append (a b : Glyph) (gs hs : List Glyph) :
    breaksBetween a b (gs ++ ['_'] :: hs).head? = breaksBetween a b gs.head? := by
  cases gs with
  | nil => simp [breaksBetween, isLower_separator]
  | cons c gs => rfl

theorem wordsOfGlyphs_append (word : List Char) (gs hs : List Glyph) :
    wordsOfGlyphs word (gs ++ ['_'] :: hs) = wordsOfGlyphs word gs ++ wordsOfGlyphs [] hs := by
  have hseparator : Glyph.isSeparator ['_'] = true := rfl
  have hend (word : List Char) :
      wordsOfGlyphs word (['_'] :: hs) = word :: wordsOfGlyphs [] hs := by
    rw [wordsOfGlyphs.eq_def]
    simp [hseparator]
  -- The reading looks two glyphs ahead, so the cases are its own: the separator is next, it is next but
  -- one, or it is further on, where only the second look may meet it.
  fun_induction wordsOfGlyphs word gs with
  | case1 word => exact hend word
  | case2 word a rest ha ih =>
    rw [List.cons_append, wordsOfGlyphs.eq_def]
    simp [ha, ih]
  | case3 word a ha =>
    rw [List.singleton_append, wordsOfGlyphs.eq_def]
    simp [ha, breaksBetween_separator, hend]
  | case4 word a ha b behind hbreaks ih =>
    rw [List.cons_append, List.cons_append, wordsOfGlyphs.eq_def]
    simp only [ha, Bool.false_eq_true, if_false, breaksBetween_append, hbreaks, if_true]
    exact congrArg ((word ++ a) :: ·) ih
  | case5 word a ha b behind hbreaks ih =>
    rw [List.cons_append, List.cons_append, wordsOfGlyphs.eq_def]
    simp only [ha, Bool.false_eq_true, if_false, breaksBetween_append, hbreaks]
    exact ih

theorem wordsOfGlyphs_ne_nil (word : List Char) (gs : List Glyph) : wordsOfGlyphs word gs ≠ [] := by
  fun_induction wordsOfGlyphs word gs <;> simp_all

theorem notMem_wordsOfGlyphs {x : Char} {word : List Char} {gs : List Glyph} (hword : x ∉ word)
    (hgs : ∀ g ∈ gs, g.isSeparator = false → x ∉ g) : ∀ w ∈ wordsOfGlyphs word gs, x ∉ w := by
  fun_induction wordsOfGlyphs word gs with
  | case1 word => exact List.forall_mem_singleton.2 hword
  | case2 word a rest ha ih =>
    exact List.forall_mem_cons.2 ⟨hword, ih List.not_mem_nil (List.forall_mem_cons.1 hgs).2⟩
  | case3 word a ha =>
    have hnext := (List.forall_mem_cons.1 hgs).1 (Bool.eq_false_iff.2 ha)
    exact List.forall_mem_singleton.2 (List.not_mem_append hword hnext)
  | case4 word a ha b behind hbreaks ih =>
    have hnext := (List.forall_mem_cons.1 hgs).1 (Bool.eq_false_iff.2 ha)
    exact List.forall_mem_cons.2 ⟨List.not_mem_append hword hnext,
      ih List.not_mem_nil (List.forall_mem_cons.1 hgs).2⟩
  | case5 word a ha b behind hbreaks ih =>
    have hnext := (List.forall_mem_cons.1 hgs).1 (Bool.eq_false_iff.2 ha)
    exact ih (List.not_mem_append hword hnext) (List.forall_mem_cons.1 hgs).2

/-- The words of two names with an underscore between them. -/
theorem words_append (s : List Char) {t : List Char} (ht : Unmarked t) :
    words (s ++ '_' :: t) = words s ++ words t := by
  rw [words, words, words, glyphs_append s ht, wordsOfGlyphs_append]

/-- The words of names with underscores between them. -/
theorem words_intercalate {names : List (List Char)} (hne : names ≠ [])
    (h : ∀ s ∈ names, Unmarked s) : Unmarked (['_'].intercalate names) ∧
      words (['_'].intercalate names) = names.flatMap words := by
  induction names with
  | nil => exact absurd rfl hne
  | cons s names ih =>
    obtain ⟨hs, hnames⟩ := List.forall_mem_cons.1 h
    cases names with
    | nil => simpa using hs
    | cons t names =>
      obtain ⟨hjoined, hwords⟩ := ih (List.cons_ne_nil _ _) hnames
      rw [List.intercalate_cons_cons, List.append_assoc, List.singleton_append]
      exact ⟨unmarked_append hs hjoined,
        by rw [words_append s hjoined, hwords, List.flatMap_cons (x := s)]⟩

/-- No word of the name has an underscore. -/
theorem notMem_words {s : List Char} (h : Unmarked s) : ∀ w ∈ words s, '_' ∉ w := by
  -- A glyph with an underscore would be a separator, and words are made of the other glyphs.
  refine notMem_wordsOfGlyphs List.not_mem_nil fun g hg hseparator hmem => ?_
  rw [eq_separator_of_mem_glyphs (List.IsChain.tail h) g hg hmem] at hseparator
  exact absurd hseparator (by decide)

/-! ## Letters -/

theorem ofNat_ne {n : Nat} (h : n ≠ 95) : Char.ofNat n ≠ '_' := by
  intro hc
  by_cases hvalid : n.isValidChar
  · have hchar : Char.ofNat n = Char.ofNatAux n hvalid := dif_pos hvalid
    exact h (congrArg Char.toNat (hchar.symm.trans hc))
  · -- What is no code point stands for the null character.
    have hchar : Char.ofNat n = Char.ofNat 0 := dif_neg hvalid
    exact absurd (hchar.symm.trans hc) (by decide)

/-- Whether a run of a table takes no character to a code point: it ends before it or starts behind it. -/
def passesBy (n : Int) (run : Nat × Nat × Nat × Int) : Bool :=
  n < run.1 + run.2.2.2 || run.2.1 + run.2.2.2 < n

theorem shifted?_ne {table : Array (Nat × Nat × Nat × Int)} {n : Nat} {c : Char}
    (htable : table.all (passesBy 95) = true) (h : shifted? table n = some c) : c ≠ '_' := by
  obtain ⟨⟨first, last, step, distance⟩, hrun, rfl⟩ := Option.map_eq_some_iff.1 h
  have hcovers := Array.find?_some hrun
  have hpasses := Array.all_eq_true_iff_forall_mem.1 htable _ (Array.mem_of_find?_eq_some hrun)
  simp only [passesBy, Bool.and_eq_true, Bool.or_eq_true, decide_eq_true_eq] at hcovers hpasses
  refine ofNat_ne ?_
  omega

theorem lowerRuns_passBy : lowerRuns.all (passesBy 95) = true := by decide +kernel

theorem upperRuns_passBy : upperRuns.all (passesBy 95) = true := by decide +kernel

theorem upperExpansions_passBy : (upperExpansions.all fun e => e.2.all (· != 95)) = true := by
  decide +kernel

theorem shifted?_getD_ne {table : Array (Nat × Nat × Nat × Int)} {c : Char}
    (htable : table.all (passesBy 95) = true) (h : c ≠ '_') :
    (shifted? table c.toNat).getD c ≠ '_' := by
  cases hc : shifted? table c.toNat with
  | none => exact h
  | some d => exact shifted?_ne htable hc

theorem ascii_ne : ∀ n < 0x80, Char.ofNat n ≠ '_' →
    (Char.ofNat n).toLower ≠ '_' ∧ (Char.ofNat n).toUpper ≠ '_' := by
  decide

theorem notMem_lowerChar {c : Char} (h : c ≠ '_') : '_' ∉ lowerChar c := by
  rw [lowerChar]
  split
  · rename_i hascii
    rw [← Char.ofNat_toNat c] at h ⊢
    exact mt List.mem_singleton.1 (ascii_ne _ hascii h).1.symm
  · split
    · decide
    · exact mt List.mem_singleton.1 (shifted?_getD_ne lowerRuns_passBy h).symm

theorem notMem_upperChar {c : Char} (h : c ≠ '_') : '_' ∉ upperChar c := by
  rw [upperChar]
  split
  · rename_i hascii
    rw [← Char.ofNat_toNat c] at h ⊢
    exact mt List.mem_singleton.1 (ascii_ne _ hascii h).2.symm
  · split
    · rename_i code text hfound
      have htext := Array.all_eq_true_iff_forall_mem.1 upperExpansions_passBy _
        (Array.mem_of_find?_eq_some hfound)
      intro hmem
      obtain ⟨n, hn, hchar⟩ := List.mem_map.1 hmem
      exact ofNat_ne (bne_iff_ne.1 (List.all_eq_true.1 htext n hn)) hchar
    · exact mt List.mem_singleton.1 (shifted?_getD_ne upperRuns_passBy h).symm

theorem notMem_lowerCaseAfter {s : List Char} (h : '_' ∉ s) (cased : Bool) :
    '_' ∉ lowerCaseAfter cased s := by
  induction s generalizing cased with
  | nil => exact h
  | cons c s ih =>
    obtain ⟨hc, hs⟩ := not_or.1 (mt List.mem_cons.2 h)
    refine List.not_mem_append ?_ (ih hs _)
    split
    · decide
    · exact notMem_lowerChar (Ne.symm hc)

theorem notMem_upperCase {s : List Char} (h : '_' ∉ s) : '_' ∉ upperCase s := by
  intro hmem
  obtain ⟨c, hc, hchar⟩ := List.mem_flatMap.1 hmem
  exact notMem_upperChar (fun heq => h (heq ▸ hc)) hchar

/-! ## Names -/

/-- Words that are put together with underscores fall apart again. -/
theorem ofList_intercalate_inj {ws ws' : List (List Char)} (hne : ws ≠ []) (hne' : ws' ≠ [])
    (h : ∀ w ∈ ws, '_' ∉ w) (h' : ∀ w ∈ ws', '_' ∉ w) :
    String.ofList (['_'].intercalate ws) = String.ofList (['_'].intercalate ws') ↔ ws = ws' := by
  refine ⟨fun heq => ?_, fun heq => heq ▸ rfl⟩
  have hsplit := @split_of_notMem ['_'] '_' rfl ws hne h
  have hsplit' := @split_of_notMem ['_'] '_' rfl ws' hne' h'
  rw [← hsplit, ← hsplit', String.ofList_inj.1 heq]

theorem smallWords_ne_nil (name : String) : smallWords name ≠ [] := by
  simp [smallWords, words, wordsOfGlyphs_ne_nil]

theorem capitalWords_ne_nil (name : String) : capitalWords name ≠ [] := by
  simp [capitalWords, words, wordsOfGlyphs_ne_nil]

theorem notMem_smallWords {name : String} (h : Unmarked name.toList) :
    ∀ w ∈ smallWords name, '_' ∉ w :=
  List.forall_mem_map.2 fun w hw => notMem_lowerCaseAfter (notMem_words h w hw) false

theorem notMem_capitalWords {name : String} (h : Unmarked name.toList) :
    ∀ w ∈ capitalWords name, '_' ∉ w :=
  List.forall_mem_map.2 fun w hw => notMem_upperCase (notMem_words h w hw)

/-- Names are the same in snake case exactly when they have the same words. -/
theorem snakeCase_eq_iff {a b : String} (ha : Unmarked a.toList) (hb : Unmarked b.toList) :
    snakeCase a = snakeCase b ↔ smallWords a = smallWords b :=
  ofList_intercalate_inj (smallWords_ne_nil a) (smallWords_ne_nil b) (notMem_smallWords ha)
    (notMem_smallWords hb)

theorem smallWords_intercalate {names : List String} (hne : names ≠ [])
    (h : ∀ s ∈ names, Unmarked s.toList) : Unmarked ("_".intercalate names).toList ∧
      smallWords ("_".intercalate names) = names.flatMap smallWords := by
  have hseparator : "_".toList = ['_'] := rfl
  obtain ⟨hunmarked, hwords⟩ := @words_intercalate (names.map String.toList)
    (mt List.map_eq_nil_iff.1 hne) (List.forall_mem_map.2 h)
  rw [smallWords, String.toList_intercalate, hseparator]
  refine ⟨hunmarked, ?_⟩
  rw [hwords, List.flatMap_map, List.map_flatMap]
  rfl

/-- Names joined with underscores are the same in snake case exactly when they have the same words. -/
theorem snakeCase_intercalate_eq_iff {names names' : List String} (hne : names ≠ [])
    (hne' : names' ≠ []) (h : ∀ s ∈ names, Unmarked s.toList) (h' : ∀ s ∈ names', Unmarked s.toList) :
    snakeCase ("_".intercalate names) = snakeCase ("_".intercalate names') ↔
      names.flatMap smallWords = names'.flatMap smallWords := by
  obtain ⟨hunmarked, hwords⟩ := smallWords_intercalate hne h
  obtain ⟨hunmarked', hwords'⟩ := smallWords_intercalate hne' h'
  rw [snakeCase_eq_iff hunmarked hunmarked', hwords, hwords']

/-- Names are the same in constant case exactly when they have the same words. -/
theorem constantCase_eq_iff {a b : String} (ha : Unmarked a.toList) (hb : Unmarked b.toList) :
    constantCase a = constantCase b ↔ capitalWords a = capitalWords b :=
  ofList_intercalate_inj (capitalWords_ne_nil a) (capitalWords_ne_nil b) (notMem_capitalWords ha)
    (notMem_capitalWords hb)

end Tablewright.Text
