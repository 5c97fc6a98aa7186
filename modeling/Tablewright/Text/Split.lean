/-!
# Cutting text at separators

Text is cut on its list of characters. `after?` reads a fixed beginning, `cut?` finds the first
occurrence of a separator, `split` finds all of them. Each cut loses nothing:
`eq_append_of_after?`, `eq_append_of_cut?` and `intercalate_split` put the text together again.
-/

namespace Tablewright.Text

/-- The text behind `lead`, if the text begins with `lead`. -/
def after? : List Char → List Char → Option (List Char)
  | [], s => some s
  | _ :: _, [] => none
  | a :: lead, b :: s => if a = b then after? lead s else none

/-- The text before `tail`, if the text ends with `tail`. -/
def before? (tail s : List Char) : Option (List Char) :=
  (after? tail.reverse s.reverse).map List.reverse

/-- Whether the text begins with `lead`. -/
def startsWith (lead s : List Char) : Bool :=
  (after? lead s).isSome

/-- The text before and behind the first occurrence of `sep`. -/
def cut? (sep : List Char) : List Char → Option (List Char × List Char)
  | [] => if sep = [] then some ([], []) else none
  | c :: s =>
    match after? sep (c :: s) with
    | some rest => some ([], rest)
    | none => (cut? sep s).map fun (left, right) => (c :: left, right)

/-- The text before and behind the last occurrence of `sep`. -/
def cutLast? (sep s : List Char) : Option (List Char × List Char) :=
  (cut? sep.reverse s.reverse).map fun (left, right) => (right.reverse, left.reverse)

/-- Whether `part` occurs in the text. -/
def contains (part s : List Char) : Bool :=
  (cut? part s).isSome

theorem eq_append_of_after? {lead s rest : List Char} (h : after? lead s = some rest) :
    s = lead ++ rest := by
  induction lead generalizing s with
  | nil => simp_all [after?]
  | cons a lead ih =>
    cases s with
    | nil => simp [after?] at h
    | cons b s =>
      by_cases hab : a = b
      · simp only [after?, hab, if_true] at h
        simp [hab, ih h]
      · simp [after?, hab] at h

@[simp] theorem after?_append (lead rest : List Char) : after? lead (lead ++ rest) = some rest := by
  induction lead with
  | nil => rfl
  | cons a lead ih => simp [after?, ih]

theorem eq_append_of_cut? {sep s left right : List Char} (h : cut? sep s = some (left, right)) :
    s = left ++ sep ++ right := by
  induction s generalizing left with
  | nil =>
    by_cases hsep : sep = []
    · simp [cut?, hsep] at h
      simp [h, hsep]
    · simp [cut?, hsep] at h
  | cons c s ih =>
    rw [cut?] at h
    split at h
    · rename_i rest hrest
      simp only [Option.some.injEq, Prod.mk.injEq] at h
      obtain ⟨rfl, rfl⟩ := h
      simpa using eq_append_of_after? hrest
    · obtain ⟨⟨l, r⟩, hlr, heq⟩ := Option.map_eq_some_iff.1 h
      simp only [Prod.mk.injEq] at heq
      obtain ⟨rfl, rfl⟩ := heq
      simp [ih hlr]

/-- The pieces between all occurrences of `sep`, from left to right. -/
def split (sep s : List Char) : List (List Char) :=
  if _hsep : sep = [] then [s]
  else
    match _h : cut? sep s with
    | none => [s]
    | some (left, right) => left :: split sep right
termination_by s.length
decreasing_by
  have hs := eq_append_of_cut? _h
  have : 0 < sep.length := List.length_pos_iff.2 _hsep
  simp only [hs, List.length_append]
  omega

/-- The pieces, joined by the separator, are the text. -/
theorem intercalate_split (sep s : List Char) : sep.intercalate (split sep s) = s := by
  fun_induction split sep s with
  | case1 => simp [List.intercalate]
  | case2 => simp [List.intercalate]
  | case3 s hsep left right h ih =>
    have hne : split sep right ≠ [] := by
      unfold split
      simp only [hsep, dite_false]
      split <;> simp
    obtain ⟨p, ps, hp⟩ := List.exists_cons_of_ne_nil hne
    rw [hp] at ih ⊢
    rw [eq_append_of_cut? h, ← ih]
    simp [List.intercalate]

end Tablewright.Text
