import Tablewright.Memory.Store
import Tablewright.Proofs.Cutting

/-!
# Text in parentheses

A text is `Balanced` if each parenthesis that it opens is closed in it. The text in a pair of
parentheses is read up to the one that closes it.

## Key results

- `parenthesized_balanced`: balanced text in parentheses is read as a whole
-/

namespace Tablewright

/-- Reading up to a closing parenthesis goes through the text, at any depth. -/
def Balanced (s : List Char) : Prop :=
  ∀ depth rest, takeParenthesized depth (s ++ rest) =
    (s ++ (takeParenthesized depth rest).1, (takeParenthesized depth rest).2)

variable {s t : List Char}

theorem balanced_nil : Balanced [] := fun _ _ => rfl

theorem balanced_append (hs : Balanced s) (ht : Balanced t) : Balanced (s ++ t) := by
  intro depth rest
  rw [List.append_assoc, hs, ht]
  simp

theorem balanced_of_notMem (hopen : '(' ∉ s) (hclose : ')' ∉ s) : Balanced s := by
  induction s with
  | nil => exact balanced_nil
  | cons c s ih =>
    intro depth rest
    have ho : c ≠ '(' := fun h => hopen (h ▸ List.mem_cons_self)
    have hc : c ≠ ')' := fun h => hclose (h ▸ List.mem_cons_self)
    have hs := ih (fun h => hopen (List.mem_cons_of_mem _ h))
      (fun h => hclose (List.mem_cons_of_mem _ h)) depth rest
    rw [List.cons_append, takeParenthesized]
    simp [ho, hc, hs]

/-- A pair of parentheses around balanced text is balanced: it is one level deeper inside. -/
theorem balanced_parens (hs : Balanced s) : Balanced ('(' :: (s ++ [')'])) := by
  intro depth rest
  have hinner := hs (depth + 1) (')' :: rest)
  have hclose : takeParenthesized (depth + 1) (')' :: rest) =
      (')' :: (takeParenthesized depth rest).1, (takeParenthesized depth rest).2) := by
    rw [takeParenthesized]
    simp
  rw [hclose] at hinner
  rw [List.cons_append, takeParenthesized, List.append_assoc, List.singleton_append]
  simp [hinner]

theorem balanced_intercalate {between : List Char} {parts : List (List Char)}
    (hb : Balanced between) (h : ∀ p ∈ parts, Balanced p) : Balanced (between.intercalate parts) := by
  induction parts with
  | nil => exact balanced_nil
  | cons p parts ih =>
    have hrest := ih fun q hq => h q (List.mem_cons_of_mem _ hq)
    cases parts with
    | nil => simpa using h p List.mem_cons_self
    | cons q parts =>
      rw [List.intercalate_cons_cons]
      exact balanced_append (balanced_append (h p List.mem_cons_self) hb) hrest

theorem takeParenthesized_balanced (hs : Balanced s) (rest : List Char) :
    takeParenthesized 0 (s ++ ')' :: rest) = (s, rest) := by
  have hend : takeParenthesized 0 (')' :: rest) = ([], rest) := by
    rw [takeParenthesized]
    simp
  rw [hs, hend, List.append_nil]

/-- Balanced text in parentheses is read as a whole, with what stands behind it. -/
theorem parenthesized_balanced (hs : Balanced s) (rest : List Char) :
    parenthesized ('(' :: (s ++ ')' :: rest)) = (s, rest) := by
  rw [parenthesized, Text.trimStart_cons (by decide)]
  exact takeParenthesized_balanced hs rest

end Tablewright
