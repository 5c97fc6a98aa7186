import Tablewright.Text.Blank
import Tablewright.Text.Split

/-!
# Cutting composed text

A text put together from pieces is cut again between them. A piece is `Clear` of a separator if no
occurrence of it begins in the piece, whatever follows; pieces that are clear can be put together,
and a separator between two of them is the first one found.

## Key results

- `clear_append`: clear pieces make a clear text
- `clear_barrier`: a character that the separator lacks ends a clear piece
- `cut?_clear`: the first separator stands behind the clear piece
- `split_intercalate`: splitting undoes joining
-/

namespace Tablewright.Text

/-- No occurrence of `sep` begins in `s`, whatever follows `s`. -/
def Clear (sep s : List Char) : Prop :=
  ∀ rest, cut? sep (s ++ rest) = (cut? sep rest).map fun p => (s ++ p.1, p.2)

variable {sep s t : List Char}

/-! ## Fixed beginnings -/

/-- A beginning that a text lacks is not completed across a character that the beginning lacks. -/
theorem after?_barrier {q : Char} (hq : q ∉ sep) (h : after? sep s = none) (rest : List Char) :
    after? sep (s ++ q :: rest) = none := by
  -- Along the beginning: as long as it agrees with the text, both get shorter.
  induction sep generalizing s with
  | nil => simp [after?] at h
  | cons a sep ih =>
    have ha : a ≠ q := fun h => hq (h ▸ List.mem_cons_self)
    cases s with
    | nil => simp [after?, ha]
    | cons b s =>
      by_cases hab : a = b
      · simp only [after?, hab, if_true] at h
        simpa only [List.cons_append, after?, hab, if_true] using
          ih (fun hm => hq (List.mem_cons_of_mem _ hm)) h
      · simp [after?, hab]

/-- Texts that differ from a beginning at its first character lack it. -/
theorem after?_cons_ne {a b : Char} (h : a ≠ b) : after? (a :: sep) (b :: s) = none := by
  simp [after?, h]

theorem after?_append_append (lead s t : List Char) :
    after? (lead ++ s) (lead ++ t) = after? s t := by
  induction lead with
  | nil => rfl
  | cons a lead ih => simp [after?, ih]

/-- A text that lacks a beginning lacks each longer one. -/
theorem after?_append_eq_none {lead text : List Char} (h : after? lead text = none)
    (s : List Char) : after? (lead ++ s) text = none := by
  induction lead generalizing text with
  | nil => simp [after?] at h
  | cons a lead ih =>
    cases text with
    | nil => rfl
    | cons b text =>
      by_cases hab : a = b
      · simp only [after?, hab, if_true] at h
        simpa only [List.cons_append, after?, hab, if_true] using ih h
      · simp [after?, hab]

theorem before?_append (left tail : List Char) : before? tail (left ++ tail) = some left := by
  simp [before?]

/-! ## Clear pieces -/

theorem clear_nil : Clear sep [] := by
  intro rest
  cases h : cut? sep rest with
  | none => simp [h]
  | some p => simp [h]

theorem clear_append (hs : Clear sep s) (ht : Clear sep t) : Clear sep (s ++ t) := by
  intro rest
  rw [List.append_assoc, hs, ht]
  cases cut? sep rest with
  | none => rfl
  | some p => simp

theorem clear_cons {c : Char} (hc : ∀ rest, after? sep (c :: (s ++ rest)) = none)
    (hs : Clear sep s) : Clear sep (c :: s) := by
  intro rest
  rw [List.cons_append, cut?, hc rest]
  simp only [hs rest]
  cases cut? sep rest with
  | none => rfl
  | some p => rfl

/-- Text without the first character of a separator is clear of it. -/
theorem clear_of_notMem {a : Char} (h : a ∉ s) : Clear (a :: sep) s := by
  induction s with
  | nil => exact clear_nil
  | cons c s ih =>
    have hc : a ≠ c := fun hac => h (hac ▸ List.mem_cons_self)
    exact clear_cons (fun rest => after?_cons_ne hc) (ih fun hm => h (List.mem_cons_of_mem _ hm))

theorem after?_eq_none_of_contains {c : Char} (h : contains sep (c :: s) = false) :
    after? sep (c :: s) = none ∧ contains sep s = false := by
  rw [contains, cut?] at h
  cases ha : after? sep (c :: s) with
  | some rest => simp [ha] at h
  | none =>
    simp only [ha] at h
    exact ⟨rfl, by simpa [contains] using h⟩

/-- A character that the separator lacks ends a clear piece. -/
theorem clear_barrier {q : Char} (hq : q ∉ sep) (h : contains sep s = false) :
    Clear sep (s ++ [q]) := by
  induction s with
  | nil =>
    cases sep with
    | nil => simp [contains, cut?] at h
    | cons a sep =>
      refine clear_of_notMem fun hm => hq ?_
      rw [List.mem_singleton.1 hm]
      exact List.mem_cons_self
  | cons c s ih =>
    -- The text after its first character lacks the separator too, and no separator begins with it.
    obtain ⟨ha, hs⟩ := after?_eq_none_of_contains h
    refine clear_cons (fun rest => ?_) (ih hs)
    have hb := after?_barrier hq ha rest
    simpa using hb

/-- A piece is clear if it is so in front of a character that the separator lacks and behind it. -/
theorem clear_append_cons {q : Char} (hq : q ∉ sep) (hs : contains sep s = false) (ht : Clear sep t) :
    Clear sep (s ++ q :: t) := by
  have h := clear_append (clear_barrier hq hs) ht
  rwa [List.append_assoc, List.singleton_append] at h

/-- A joined text is its first piece and then each further one behind the text between them. -/
theorem intercalate_cons_eq (between : List Char) (p : List Char) (parts : List (List Char)) :
    between.intercalate (p :: parts) = p ++ parts.flatMap (between ++ ·) := by
  induction parts generalizing p with
  | nil => simp
  | cons q parts ih => rw [List.intercalate_cons_cons, ih q, List.flatMap_cons]; simp

/-- A character that stands in no part and not between them stands nowhere in the joined text. -/
theorem notMem_intercalate {x : Char} {between : List Char} {parts : List (List Char)}
    (hbetween : x ∉ between) (h : ∀ p ∈ parts, x ∉ p) : x ∉ between.intercalate parts := by
  cases parts with
  | nil => simp
  | cons p parts =>
    rw [intercalate_cons_eq]
    intro hm
    rcases List.mem_append.1 hm with hm | hm
    · exact h p List.mem_cons_self hm
    · obtain ⟨q, hq, hm⟩ := List.mem_flatMap.1 hm
      rcases List.mem_append.1 hm with hm | hm
      · exact hbetween hm
      · exact h q (List.mem_cons_of_mem _ hq) hm

theorem intercalate_concat {between : List Char} {parts : List (List Char)} (hne : parts ≠ [])
    (last : List Char) :
    between.intercalate (parts ++ [last]) = between.intercalate parts ++ between ++ last := by
  obtain ⟨p, ps, rfl⟩ := List.exists_cons_of_ne_nil hne
  rw [List.cons_append, intercalate_cons_eq, intercalate_cons_eq]
  simp

theorem clear_flatMap {α : Type} {f : α → List Char} {xs : List α}
    (h : ∀ x ∈ xs, Clear sep (f x)) : Clear sep (xs.flatMap f) := by
  induction xs with
  | nil => exact clear_nil
  | cons x xs ih =>
    rw [List.flatMap_cons]
    exact clear_append (h x List.mem_cons_self) (ih fun y hy => h y (List.mem_cons_of_mem _ hy))

/-- Joining keeps text clear if each piece is clear by itself and behind the text between them. -/
theorem clear_intercalate {between : List Char} {parts : List (List Char)}
    (h : ∀ p ∈ parts, Clear sep p) (hb : ∀ p ∈ parts, Clear sep (between ++ p)) :
    Clear sep (between.intercalate parts) := by
  cases parts with
  | nil => exact clear_nil
  | cons p parts =>
    rw [intercalate_cons_eq]
    exact clear_append (h p List.mem_cons_self)
      (clear_flatMap fun q hq => hb q (List.mem_cons_of_mem _ hq))

/-! ## Cutting -/

theorem cut?_clear (hs : Clear sep s) (rest : List Char) :
    cut? sep (s ++ sep ++ rest) = some (s, rest) := by
  rw [List.append_assoc, hs]
  cases sep with
  | nil =>
    cases rest with
    | nil => simp [cut?]
    | cons c rest => simp [cut?, after?]
  | cons a sep =>
    have ha := after?_append (a :: sep) rest
    rw [List.cons_append] at ha ⊢
    rw [cut?, ha]
    simp

/-- What stands in the middle of a text is contained in it. -/
theorem contains_middle (front sep rest : List Char) : contains sep (front ++ sep ++ rest) = true := by
  induction front with
  | nil =>
    have hbehind := after?_append sep rest
    rw [List.nil_append, contains]
    cases hs : sep ++ rest with
    | nil => simp [cut?, (List.append_eq_nil_iff.1 hs).1]
    | cons c s =>
      rw [hs] at hbehind
      rw [cut?, hbehind]
      rfl
  | cons c front ih =>
    rw [List.cons_append, List.cons_append, contains, cut?]
    cases after? sep (c :: (front ++ sep ++ rest)) with
    | some behind => rfl
    | none => rwa [Option.isSome_map]

/-- No separator begins at the first character of a clear text, and what is behind it is clear too. -/
theorem Clear.tail {c : Char} (h : Clear sep (c :: s)) :
    (∀ rest, after? sep (c :: (s ++ rest)) = none) ∧ Clear sep s := by
  have hnone (rest : List Char) : after? sep (c :: (s ++ rest)) = none := by
    have hcut := h rest
    rw [List.cons_append, cut?] at hcut
    cases ha : after? sep (c :: (s ++ rest)) with
    | none => rfl
    | some behind =>
      rw [ha] at hcut
      cases hr : cut? sep rest <;> simp [hr] at hcut
  refine ⟨hnone, fun rest => ?_⟩
  have hcut := h rest
  rw [List.cons_append, cut?, hnone rest] at hcut
  -- Both cuts have the first character in front of the left side.
  have hinj : Function.Injective fun p : List Char × List Char => (c :: p.1, p.2) :=
    fun p q hpq => Prod.ext (List.cons.inj (Prod.mk.inj hpq).1).2 (Prod.mk.inj hpq).2
  refine Option.map_injective hinj ?_
  rw [Option.map_map]
  exact hcut

/-- A text that is clear of a separator is clear of each longer one. -/
theorem clear_longer (h : Clear sep s) (more : List Char) : Clear (sep ++ more) s := by
  induction s with
  | nil => exact clear_nil
  | cons c s ih =>
    exact clear_cons (fun rest => after?_append_eq_none (h.tail.1 rest) more) (ih h.tail.2)

theorem contains_append (hs : Clear sep s) (ht : contains sep t = false) :
    contains sep (s ++ t) = false := by
  rw [contains, hs]
  simpa [contains] using ht

theorem contains_of_clear (hsep : sep ≠ []) (hs : Clear sep s) : contains sep s = false := by
  rw [← List.append_nil s]
  exact contains_append hs (by simp [contains, cut?, hsep])

theorem split_of_contains (h : contains sep s = false) : split sep s = [s] := by
  have hcut : cut? sep s = none := by
    cases hc : cut? sep s with
    | none => rfl
    | some p => simp [contains, hc] at h
  unfold split
  split
  · rfl
  · split
    · rfl
    · simp_all

theorem split_cons (hsep : sep ≠ []) (hs : Clear sep s) (rest : List Char) :
    split sep (s ++ sep ++ rest) = s :: split sep rest := by
  have hcut := cut?_clear hs rest
  conv => lhs; unfold split
  rw [dif_neg hsep]
  split
  · simp_all
  · rename_i left right h
    rw [hcut] at h
    simp only [Option.some.injEq, Prod.mk.injEq] at h
    rw [← h.1, ← h.2]

/-- The first piece of a text begins with all that is clear of the separator. -/
theorem split_clear (hsep : sep ≠ []) (hs : Clear sep s) (rest : List Char) :
    ∃ more pieces, split sep (s ++ rest) = (s ++ more) :: pieces := by
  unfold split
  rw [dif_neg hsep]
  split
  · exact ⟨rest, [], rfl⟩
  · rename_i left right h
    rw [hs] at h
    obtain ⟨p, -, hp⟩ := Option.map_eq_some_iff.1 h
    rw [← (Prod.mk.inj hp).1]
    exact ⟨p.1, _, rfl⟩

/-- Splitting undoes joining. The last piece only has to lack the separator. -/
theorem split_intercalate_concat (hsep : sep ≠ []) {parts : List (List Char)}
    (h : ∀ p ∈ parts, Clear sep p) {last : List Char} (hlast : contains sep last = false) :
    split sep (sep.intercalate (parts ++ [last])) = parts ++ [last] := by
  induction parts with
  | nil => rw [List.nil_append, List.intercalate_singleton, split_of_contains hlast]
  | cons p parts ih =>
    have hne : parts ++ [last] ≠ [] := by simp
    rw [List.cons_append, List.intercalate_cons_of_ne_nil hne,
      split_cons hsep (h p List.mem_cons_self), ih fun q hq => h q (List.mem_cons_of_mem _ hq)]

theorem split_intercalate (hsep : sep ≠ []) {parts : List (List Char)} (hne : parts ≠ [])
    (h : ∀ p ∈ parts, Clear sep p) : split sep (sep.intercalate parts) = parts := by
  rw [← List.dropLast_concat_getLast hne]
  refine split_intercalate_concat hsep (fun p hp => h p (List.dropLast_subset _ hp)) ?_
  exact contains_of_clear hsep (h _ (List.getLast_mem hne))

/-- Pieces without the first character of the separator fall apart again. -/
theorem split_of_notMem {a : Char} (hsep : sep.head? = some a) {pieces : List (List Char)}
    (hne : pieces ≠ []) (h : ∀ p ∈ pieces, a ∉ p) : split sep (sep.intercalate pieces) = pieces := by
  obtain ⟨rest, rfl⟩ := List.head?_eq_some_iff.1 hsep
  exact split_intercalate (List.cons_ne_nil a rest) hne fun p hp => clear_of_notMem (h p hp)

/-! ## Trimming -/

theorem trimStart_cons {c : Char} (h : isBlank c = false) : trimStart (c :: s) = c :: s := by
  simp [trimStart, h]

theorem trimEnd_append {c : Char} (h : isBlank c = false) : trimEnd (s ++ [c]) = s ++ [c] := by
  simp [trimEnd, h]

/-- Text without white space at its ends is kept. -/
theorem trim_eq {c e : Char} {front : List Char} (hc : isBlank c = false) (he : isBlank e = false)
    (hs : s = c :: t) (hend : s = front ++ [e]) : trim s = s := by
  have hstart : trimStart s = s := by rw [hs, trimStart_cons hc]
  rw [trim, hstart, hend, trimEnd_append he]

end Tablewright.Text
