import Mathlib.Data.List.Basic
import Mathlib.Data.List.TakeWhile
import Tablewright.Proofs.ColumnLists
import Tablewright.Proofs.Placeholders

/-!
# Readable statements

A statement is readable if its fragments can be told apart in its text, whatever names it quotes: its
words hold no quotes, and behind a name or a parameter stands nothing that could belong to it. `Shows`
says this together with the names and the parameters of a statement and goes along with the way in
which statements are put together. Names are read off any readable text, placeholders off one whose
words do not mark any.

## Key results

- `Shows.followed`, `shows_joined`: what the parts of a statement show, the statement shows in order
- `Shows.namesIn_chars`: the quoted names in the text are the names of the statement
- `Shows.placeholdersIn_text`: the placeholders outside of the quotes are its parameters
-/

namespace Tablewright

/-- The character in front of a placeholder. -/
def Dialect.mark : Dialect → Char
  | .sqlServer => '@'
  | .postgres => '$'

namespace Sql

/-- The characters around quoted names. -/
def quoteChars : List Char := ['[', ']', '"']

/-- The characters around quoted names and in front of placeholders. -/
def rowChars : List Char := ['[', ']', '"', '@', '$']

theorem openQuote_mem_quoteChars (d : Dialect) : d.openQuote ∈ quoteChars := by
  cases d <;> decide

theorem mem_rowChars_of_mem_quoteChars {c : Char} (h : c ∈ quoteChars) : c ∈ rowChars :=
  List.mem_append_left ['@', '$'] h

/-- Whether a word holds none of some characters. -/
def lacksAll (bad : List Char) (w : String) : Bool :=
  bad.all fun c => !w.toList.contains c

/-- Whether a character can stand behind a name or a parameter: it is no quote and no part of a word. -/
def isBreak (c : Char) : Bool :=
  !Text.isAsciiWord c && !quoteChars.contains c

/-- Whether a text can stand behind a name or a parameter. -/
def isApart (text : List Char) : Bool :=
  text.head?.all isBreak

/-- Whether a word can stand behind a name or a parameter and holds none of some characters. -/
def isBoundary (bad : List Char) (w : String) : Bool :=
  w.toList.head?.any isBreak && lacksAll bad w

/-- The words of a statement hold none of some characters, and nothing that could belong to a name or a
parameter stands behind it. -/
def Statement.Readable (d : Dialect) (bad : List Char) : Statement → Prop
  | [] => True
  | .word w :: s => lacksAll bad w = true ∧ Readable d bad s
  | .name _ :: s => isApart (chars d s) = true ∧ Readable d bad s
  | .parameter n _ :: s => isPlainName n = true ∧ isApart (chars d s) = true ∧ Readable d bad s

variable {d : Dialect} {bad : List Char} {s t p : Statement} {w between : String} {n n' : List String}
  {i i' : List (String × Nat)}

theorem notMem_of_lacksAll {c : Char} (h : lacksAll bad w = true) (hc : c ∈ bad) : c ∉ w.toList := by
  simpa using List.all_eq_true.1 h c hc

theorem lacksAll_mono {fewer : List Char} (hsub : ∀ c ∈ fewer, c ∈ bad) (h : lacksAll bad w = true) :
    lacksAll fewer w = true :=
  List.all_eq_true.2 fun c hc => List.all_eq_true.1 h c (hsub c hc)

theorem lacksAll_append {v w : String} (hv : lacksAll bad v = true) (hw : lacksAll bad w = true) :
    lacksAll bad (v ++ w) = true := by
  refine List.all_eq_true.2 fun c hc => ?_
  simp [notMem_of_lacksAll hv hc, notMem_of_lacksAll hw hc]

/-- More of a word that can stand behind a name. -/
theorem isBoundary_append {v w : String} (hv : isBoundary bad v = true) (hw : lacksAll bad w = true) :
    isBoundary bad (v ++ w) = true := by
  rw [isBoundary, Bool.and_eq_true] at hv ⊢
  refine ⟨?_, lacksAll_append hv.2 hw⟩
  rw [String.toList_append, List.head?_append]
  cases hhead : v.toList.head? with
  | none => simp [hhead] at hv
  | some c => simpa [hhead] using hv.1

/-! ## Texts behind a name -/

theorem isApart_append {a b : List Char} (ha : isApart a = true) (hb : isApart b = true) :
    isApart (a ++ b) = true := by
  cases a with
  | nil => exact hb
  | cons c a => exact ha

theorem isApart_boundary (h : isBoundary bad w = true) (text : List Char) :
    isApart (w.toList ++ text) = true := by
  rw [isBoundary, Bool.and_eq_true] at h
  cases hw : w.toList with
  | nil => simp [hw] at h
  | cons c rest =>
    rw [hw] at h
    exact h.1

theorem head?_ne_of_isApart {text : List Char} (h : isApart text = true) :
    text.head? ≠ some d.closeQuote := by
  intro hhead
  rw [isApart, hhead] at h
  cases d <;> exact absurd h (by decide)

/-- Nothing of a text behind a parameter belongs to the name of the parameter. -/
theorem spanWord_of_isApart {name text : List Char} (hname : name.all Text.isAsciiWord = true)
    (h : isApart text = true) :
    (name ++ text).takeWhile Text.isAsciiWord = name ∧
      (name ++ text).dropWhile Text.isAsciiWord = text := by
  have hall := List.all_eq_true.1 hname
  have hstop : text.takeWhile Text.isAsciiWord = [] ∧ text.dropWhile Text.isAsciiWord = text := by
    cases text with
    | nil => exact ⟨rfl, rfl⟩
    | cons c rest =>
      have hc : Text.isAsciiWord c = false := by
        have hbreak : isBreak c = true := h
        rw [isBreak, Bool.and_eq_true, Bool.not_eq_true'] at hbreak
        exact hbreak.1
      exact ⟨List.takeWhile_cons_of_neg (by simp [hc]), List.dropWhile_cons_of_neg (by simp [hc])⟩
  rw [List.takeWhile_append_of_pos hall, List.dropWhile_append_of_pos hall, hstop.1, hstop.2,
    List.append_nil]
  exact ⟨rfl, rfl⟩

namespace Statement

/-! ## Readable parts -/

theorem Readable.mono {fewer : List Char} (hsub : ∀ c ∈ fewer, c ∈ bad) (h : Readable d bad s) :
    Readable d fewer s := by
  induction s with
  | nil => trivial
  | cons f s ih =>
    cases f with
    | word w => exact ⟨lacksAll_mono hsub h.1, ih h.2⟩
    | name n => exact ⟨h.1, ih h.2⟩
    | parameter n i => exact ⟨h.1, h.2.1, ih h.2.2⟩

theorem readable_append (hs : Readable d bad s) (ht : Readable d bad t)
    (hapart : isApart (chars d t) = true) : Readable d bad (s ++ t) := by
  -- What stands behind a name of the first part is in that part or the beginning of the second one.
  have hbehind {rest : Statement} (h : isApart (chars d rest) = true) :
      isApart (chars d (rest ++ t)) = true := by
    rw [chars_append]
    exact isApart_append h hapart
  induction s with
  | nil => exact ht
  | cons f s ih =>
    cases f with
    | word w => exact ⟨hs.1, ih hs.2⟩
    | name n => exact ⟨hbehind hs.1, ih hs.2⟩
    | parameter n i => exact ⟨hs.1, hbehind hs.2.1, ih hs.2.2⟩

/-- A readable statement and, behind it, a word with another one. -/
theorem Readable.followed (hs : Readable d bad s) (hw : isBoundary bad w = true)
    (hp : Readable d bad p) : Readable d bad (s ++ .word w :: p) := by
  have hlacks := hw
  rw [isBoundary, Bool.and_eq_true] at hlacks
  exact readable_append hs ⟨hlacks.2, hp⟩ (isApart_boundary hw _)

theorem readable_joined (hbetween : isBoundary bad between = true) {parts : List Statement}
    (h : ∀ p ∈ parts, Readable d bad p) : Readable d bad (joined between parts) := by
  cases parts with
  | nil => trivial
  | cons p parts =>
    have hp := h p List.mem_cons_self
    have hparts : ∀ q ∈ parts, Readable d bad q := fun q hq => h q (List.mem_cons_of_mem _ hq)
    rw [joined_cons]
    clear h
    -- Each further part follows all that stands in front of it.
    induction parts generalizing p with
    | nil => rwa [List.flatMap_nil, List.append_nil]
    | cons q parts ih =>
      rw [List.flatMap_cons, ← List.append_assoc]
      exact ih (p ++ .word between :: q) (hp.followed hbetween (hparts q List.mem_cons_self))
        fun r hr => hparts r (List.mem_cons_of_mem _ hr)

/-! ## What a statement shows -/

theorem parameters_joined (between : String) (parts : List Statement) :
    (joined between parts).parameters = parts.flatMap parameters := by
  cases parts with
  | nil => rfl
  | cons p parts =>
    rw [joined_cons, parameters_append, List.flatMap_cons]
    congr 1
    induction parts with
    | nil => rfl
    | cons q parts ih =>
      rw [List.flatMap_cons, parameters_append, ih, List.flatMap_cons]
      rfl

/-- A statement is readable, with its names and its parameters in order. -/
structure Shows (d : Dialect) (bad : List Char) (s : Statement) (names : List String)
    (parameters : List (String × Nat)) : Prop where
  readable : Readable d bad s
  names : s.names = names
  parameters : s.parameters = parameters

theorem shows_nil : Shows d bad [] [] [] := ⟨trivial, rfl, rfl⟩

theorem shows_name (ident : String) : Shows d bad [.name ident] [ident] [] :=
  ⟨⟨rfl, trivial⟩, rfl, rfl⟩

theorem shows_parameter {name : String} (h : isPlainName name = true) (position : Nat) :
    Shows d bad [.parameter name position] [] [(name, position)] :=
  ⟨⟨h, rfl, trivial⟩, rfl, rfl⟩

theorem Shows.mono {fewer : List Char} (hs : Shows d bad s n i) (hsub : ∀ c ∈ fewer, c ∈ bad) :
    Shows d fewer s n i :=
  ⟨hs.readable.mono hsub, hs.names, hs.parameters⟩

/-- A word in front of a part shows what the part does. -/
theorem Shows.phrase (hw : lacksAll bad w = true) (hp : Shows d bad p n i) :
    Shows d bad (.word w :: p) n i :=
  ⟨⟨hw, hp.readable⟩, hp.names, hp.parameters⟩

theorem Shows.followed (hs : Shows d bad s n i) (hw : isBoundary bad w = true)
    (hp : Shows d bad p n' i') : Shows d bad (s ++ .word w :: p) (n ++ n') (i ++ i') := by
  refine ⟨hs.readable.followed hw hp.readable, ?_, ?_⟩
  · rw [names_append, hs.names, ← hp.names]
    rfl
  · rw [parameters_append, hs.parameters, ← hp.parameters]
    rfl

/-- A word at the end shows nothing. -/
theorem Shows.ended (hs : Shows d bad s n i) (hw : isBoundary bad w = true) :
    Shows d bad (s ++ [.word w]) n i := by
  have h := hs.followed hw shows_nil
  rwa [List.append_nil, List.append_nil] at h

/-- A list of parts shows what its parts show, one after the other. -/
theorem shows_joined {α : Type} {xs : List α} {part : α → Statement} {name : α → List String}
    {parameter : α → List (String × Nat)} (hbetween : isBoundary bad between = true)
    (h : ∀ x ∈ xs, Shows d bad (part x) (name x) (parameter x)) :
    Shows d bad (joined between (xs.map part)) (xs.flatMap name) (xs.flatMap parameter) := by
  refine ⟨readable_joined hbetween fun p hp => ?_, ?_, ?_⟩
  · obtain ⟨x, hx, rfl⟩ := List.mem_map.1 hp
    exact (h x hx).readable
  · rw [names_joined, List.flatMap_map]
    exact List.flatMap_congr fun x hx => (h x hx).names
  · rw [parameters_joined, List.flatMap_map]
    exact List.flatMap_congr fun x hx => (h x hx).parameters

/-- A list of parts that show no more than one name each. -/
theorem shows_joined_names {α : Type} {xs : List α} {part : α → Statement} {name : α → String}
    (hbetween : isBoundary bad between = true)
    (h : ∀ x ∈ xs, Shows d bad (part x) [name x] []) :
    Shows d bad (joined between (xs.map part)) (xs.map name) [] := by
  have hs := shows_joined hbetween h
  rwa [← List.map_eq_flatMap, List.flatMap_eq_nil_iff.2 fun _ _ => rfl] at hs

end Statement

/-! ## Reading -/

/-- The placeholders outside of quoted names, from left to right: each is a mark and the characters of
a word behind it. -/
def placeholders (d : Dialect) : List Char → List (List Char)
  | [] => []
  | c :: s =>
    if c = d.openQuote then placeholders d (takeQuoted d.closeQuote s).2
    else if c = d.mark then
      (c :: s.takeWhile Text.isAsciiWord) :: placeholders d (s.dropWhile Text.isAsciiWord)
    else placeholders d s
termination_by s => s.length
decreasing_by
  · have := length_takeQuoted_le d.closeQuote s
    simp only [List.length_cons]
    omega
  · have := List.length_dropWhile_le Text.isAsciiWord s
    simp only [List.length_cons]
    omega
  · simp

/-- The placeholders in a text. -/
def placeholdersIn (d : Dialect) (text : String) : List String :=
  (placeholders d text.toList).map String.ofList

theorem placeholders_word {w : List Char} (hopen : d.openQuote ∉ w) (hmark : d.mark ∉ w)
    (rest : List Char) : placeholders d (w ++ rest) = placeholders d rest := by
  induction w with
  | nil => rfl
  | cons c w ih =>
    have hc : c ≠ d.openQuote := fun hc => hopen (hc ▸ List.mem_cons_self)
    have hc' : c ≠ d.mark := fun hc => hmark (hc ▸ List.mem_cons_self)
    rw [List.cons_append, placeholders, if_neg hc, if_neg hc',
      ih (fun hm => hopen (List.mem_cons_of_mem _ hm)) fun hm => hmark (List.mem_cons_of_mem _ hm)]

theorem placeholders_quote (d : Dialect) (name : String) {rest : List Char}
    (h : rest.head? ≠ some d.closeQuote) :
    placeholders d ((d.quote name).toList ++ rest) = placeholders d rest := by
  simp [Dialect.quote, placeholders, takeQuoted_quoteBody _ _ _ h]

/-- The placeholder of a parameter with a plain name is its mark and a word. -/
theorem toList_namedPlaceholder (d : Dialect) {n : String} (h : isPlainName n = true) (i : Nat) :
    ∃ name : List Char, name.all Text.isAsciiWord = true ∧
      (d.namedPlaceholder n i).toList = d.mark :: name := by
  cases d with
  | sqlServer => exact ⟨n.toList, h, by rw [Dialect.namedPlaceholder, String.toList_append]; rfl⟩
  | postgres =>
    refine ⟨(Text.numeral i).toList, isPlainName_numeral i, ?_⟩
    rw [Dialect.namedPlaceholder, Dialect.placeholder, String.toList_append]
    rfl

theorem placeholders_parameter (d : Dialect) {n : String} (h : isPlainName n = true) (i : Nat)
    {rest : List Char} (hrest : isApart rest = true) :
    placeholders d ((d.namedPlaceholder n i).toList ++ rest) =
      (d.namedPlaceholder n i).toList :: placeholders d rest := by
  obtain ⟨name, hname, htext⟩ := toList_namedPlaceholder d h i
  obtain ⟨htake, hdrop⟩ := spanWord_of_isApart hname hrest
  have hmark : d.mark ≠ d.openQuote := by cases d <;> decide
  rw [htext, List.cons_append, placeholders, if_neg hmark, if_pos rfl, htake, hdrop]

namespace Statement

/-- No word and no parameter of a readable statement opens a quote. -/
theorem Readable.legible (h : Readable d bad s) (hopen : d.openQuote ∈ bad) : Legible d s := by
  induction s with
  | nil => trivial
  | cons f s ih =>
    cases f with
    | word w => exact ⟨notMem_of_lacksAll h.1 hopen, ih h.2⟩
    | name n => exact ⟨head?_ne_of_isApart h.1, ih h.2⟩
    | parameter n i =>
      refine ⟨(isPlaceholder_named d h.1 i).notMem ?_ ?_, ih h.2.2⟩ <;> cases d <;> decide

/-- The quoted names in the text of a readable statement are its names. -/
theorem Shows.namesIn_chars (h : Shows d bad s n i) (hopen : d.openQuote ∈ bad) :
    namesIn d (s.chars d) = n := by
  rw [Sql.namesIn_chars (h.readable.legible hopen), h.names]

/-- The placeholders in the text of a readable statement are those of its parameters. -/
theorem Shows.placeholdersIn_text (h : Shows d rowChars s n i) :
    placeholdersIn d (s.text d) = i.map fun p => d.namedPlaceholder p.1 p.2 := by
  have hopen := mem_rowChars_of_mem_quoteChars (openQuote_mem_quoteChars d)
  have hmark : d.mark ∈ rowChars := by cases d <;> decide
  have hchars {s : Statement} (hs : Readable d rowChars s) : placeholders d (s.chars d) =
      s.parameters.map fun p => (d.namedPlaceholder p.1 p.2).toList := by
    -- Word by word: only a parameter adds a placeholder, and it ends where its fragment does.
    induction s with
    | nil => simp [chars, placeholders, Statement.parameters]
    | cons f s ih =>
      cases f with
      | word w =>
        rw [chars_word, placeholders_word (notMem_of_lacksAll hs.1 hopen)
          (notMem_of_lacksAll hs.1 hmark), ih hs.2]
        rfl
      | name ident =>
        rw [chars_name, placeholders_quote d ident (head?_ne_of_isApart hs.1), ih hs.2]
        rfl
      | parameter name position =>
        rw [chars_parameter, placeholders_parameter d hs.1 position hs.2.1, ih hs.2.2]
        rfl
  rw [placeholdersIn, toList_text, hchars h.readable, h.parameters, List.map_map]
  refine List.map_congr_left fun p _ => ?_
  rw [Function.comp_apply, String.ofList_toList]

end Statement

end Sql

end Tablewright
