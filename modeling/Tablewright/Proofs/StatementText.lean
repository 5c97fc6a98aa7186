import Tablewright.Proofs.PlainNames
import Tablewright.Memory.Store

/-!
# The text of a statement

A statement's text as a list of characters, composed like the statement itself, and the names that
are read off it again. `Legible` says that no word of a statement opens a quote and that none of its
names runs into a quote behind it; then the quoted names in the text are the names of the statement,
whatever characters they hold.

## Key results

- `toList_text`: the text is composed like the statement
- `quotedNames_chars`, `namesIn_chars`: the names of a legible statement are read off its text
-/

namespace Tablewright.Sql

namespace Statement

/-- The characters of a statement's text. -/
def chars (d : Dialect) (s : Statement) : List Char :=
  s.flatMap fun f => (f.text d).toList

variable {d : Dialect} {s t : Statement}

theorem toList_text (d : Dialect) (s : Statement) : (s.text d).toList = s.chars d := by
  rw [text, String.toList_join, chars, List.flatMap_map]

theorem chars_nil : chars d [] = [] := rfl

theorem chars_word (w : String) : chars d (.word w :: s) = w.toList ++ chars d s := rfl

theorem chars_name (n : String) : chars d (.name n :: s) = (d.quote n).toList ++ chars d s := rfl

theorem chars_parameter (n : String) (i : Nat) :
    chars d (.parameter n i :: s) = (d.namedPlaceholder n i).toList ++ chars d s := rfl

theorem chars_append (s t : Statement) : chars d (s ++ t) = chars d s ++ chars d t :=
  List.flatMap_append

theorem joined_cons (between : String) (p : Statement) (parts : List Statement) :
    joined between (p :: parts) = p ++ parts.flatMap (.word between :: ·) := by
  -- On the parts behind the first one, each with the words in front of it.
  induction parts generalizing p with
  | nil => simp [joined]
  | cons q parts ih =>
    have hq := ih q
    rw [joined] at hq ⊢
    rw [List.intercalate_cons_cons, hq, List.flatMap_cons]
    simp

theorem chars_joined (between : String) (parts : List Statement) :
    chars d (joined between parts) = between.toList.intercalate (parts.map (chars d)) := by
  cases parts with
  | nil => rfl
  | cons p parts =>
    rw [joined_cons, chars_append, List.map_cons, Text.intercalate_cons_eq]
    congr 1
    induction parts with
    | nil => rfl
    | cons q parts ih =>
      rw [List.flatMap_cons, chars_append, ih, chars_word, List.map_cons, List.flatMap_cons]

/-! ## Legible statements -/

/-- No word or parameter opens a quote, and none follows a name with the closing one. -/
def Legible (d : Dialect) : Statement → Prop
  | [] => True
  | .word w :: s => d.openQuote ∉ w.toList ∧ Legible d s
  | .parameter n i :: s => d.openQuote ∉ (d.namedPlaceholder n i).toList ∧ Legible d s
  | .name _ :: s => (chars d s).head? ≠ some d.closeQuote ∧ Legible d s

theorem legible_append (hs : Legible d s) (ht : Legible d t)
    (hhead : (chars d t).head? ≠ some d.closeQuote) : Legible d (s ++ t) := by
  induction s with
  | nil => exact ht
  | cons f s ih =>
    cases f with
    | word w => exact ⟨hs.1, ih hs.2⟩
    | parameter n i => exact ⟨hs.1, ih hs.2⟩
    | name n =>
      refine ⟨?_, ih hs.2⟩
      -- A name must not be followed by the quote that ends it, in its own part or in the next one.
      show (chars d (s ++ t)).head? ≠ some d.closeQuote
      rw [chars_append, List.head?_append]
      cases hc : (chars d s).head? with
      | none => simpa using hhead
      | some c =>
        have hne := hs.1
        rw [hc] at hne
        simpa using hne

theorem head?_flatMap_word {between : String} (parts : List Statement)
    (hhead : between.toList.head?.any (· != d.closeQuote) = true) :
    (chars d (parts.flatMap (.word between :: ·))).head? ≠ some d.closeQuote := by
  cases parts with
  | nil => simp [chars]
  | cons q parts =>
    rw [List.flatMap_cons, List.cons_append, chars_word]
    cases hw : between.toList with
    | nil => simp [hw] at hhead
    | cons c w => simpa [hw] using hhead

theorem legible_joined {between : String} {parts : List Statement}
    (hopen : d.openQuote ∉ between.toList)
    (hhead : between.toList.head?.any (· != d.closeQuote) = true)
    (h : ∀ p ∈ parts, Legible d p) : Legible d (joined between parts) := by
  cases parts with
  | nil => trivial
  | cons p parts =>
    rw [joined_cons]
    -- The words between two parts come behind each part but the last one.
    refine legible_append (h p List.mem_cons_self) ?_ (head?_flatMap_word parts hhead)
    have hrest : ∀ q ∈ parts, Legible d q := fun q hq => h q (List.mem_cons_of_mem _ hq)
    clear h
    induction parts with
    | nil => trivial
    | cons q parts ih =>
      rw [List.flatMap_cons, List.cons_append]
      exact ⟨hopen, legible_append (hrest q List.mem_cons_self)
        (ih fun r hr => hrest r (List.mem_cons_of_mem _ hr)) (head?_flatMap_word parts hhead)⟩

theorem names_joined (between : String) (parts : List Statement) :
    (joined between parts).names = parts.flatMap names := by
  cases parts with
  | nil => rfl
  | cons p parts =>
    rw [joined_cons, names_append, List.flatMap_cons]
    congr 1
    induction parts with
    | nil => rfl
    | cons q parts ih =>
      rw [List.flatMap_cons, names_append, ih, List.flatMap_cons]
      rfl

end Statement

/-! ## Reading names -/

variable {d : Dialect}

theorem quotedNames_word {w : List Char} (h : d.openQuote ∉ w) (rest : List Char) :
    quotedNames d (w ++ rest) = quotedNames d rest := by
  induction w with
  | nil => rfl
  | cons c w ih =>
    have hc : c ≠ d.openQuote := fun hc => h (hc ▸ List.mem_cons_self)
    rw [List.cons_append, quotedNames, if_neg hc, ih fun hm => h (List.mem_cons_of_mem _ hm)]

/-- The quoted names in the text of a legible statement are its names. -/
theorem quotedNames_chars {s : Statement} (h : s.Legible d) :
    quotedNames d (s.chars d) = s.names.map String.toList := by
  -- Word by word: a word opens no quote, and a name is closed by its own.
  induction s with
  | nil => simp [Statement.chars, quotedNames, Statement.names]
  | cons f s ih =>
    cases f with
    | word w =>
      rw [Statement.chars_word, quotedNames_word h.1, ih h.2]
      rfl
    | parameter n i =>
      rw [Statement.chars_parameter, quotedNames_word h.1, ih h.2]
      rfl
    | name n =>
      rw [Statement.chars_name, quotedNames_quote d n _ h.1, ih h.2]
      rfl

theorem namesIn_chars {s : Statement} (h : s.Legible d) : namesIn d (s.chars d) = s.names := by
  rw [namesIn, quotedNames_chars h, List.map_map]
  simp [Function.comp_def]

theorem nameIn_quote (d : Dialect) (n : String) : nameIn d (d.quote n).toList = .ok n := by
  have h := namesIn_chars (d := d) (s := [.name n]) (by simp [Statement.Legible, Statement.chars])
  rw [Statement.chars_name, Statement.chars_nil, List.append_nil] at h
  rw [nameIn, h]
  rfl

end Tablewright.Sql
