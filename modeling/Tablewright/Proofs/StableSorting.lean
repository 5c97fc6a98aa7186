import Mathlib.Data.List.Basic

/-!
# Stable sorting

Sorting by an order that does not tell all elements apart keeps those that it does not tell apart as they
were. This and the order determine the sorted list, so that sorting and leaving elements out can change
places.

## Key results

- `filter_mergeSort_class`: sorting keeps elements of the same rank as they were
- `eq_of_pairwise_of_class`: a sorted list is determined by its elements of each rank
- `filter_mergeSort`: leaving elements out before or behind the sorting is the same
-/

namespace Tablewright

section

variable {α : Type} {le : α → α → Bool} (trans : ∀ a b c, le a b = true → le b c = true → le a c = true)
  (total : ∀ a b, (le a b || le b a) = true)

include trans total

/-- Sorting keeps elements that the order does not tell apart as they were. -/
theorem filter_mergeSort_class {p : α → Bool} (hp : ∀ a b, p a = true → p b = true → le a b = true)
    (xs : List α) : (xs.mergeSort le).filter p = xs.filter p := by
  have hclass : (xs.filter p).Pairwise fun a b => le a b = true :=
    List.pairwise_of_forall_mem_list fun a ha b hb =>
      hp a b (List.mem_filter.1 ha).2 (List.mem_filter.1 hb).2
  have hsublist := (List.sublist_mergeSort trans total hclass List.filter_sublist).filter p
  simp only [List.filter_filter, Bool.and_self] at hsublist
  exact (hsublist.eq_of_length ((List.mergeSort_perm xs le).filter p).length_eq.symm).symm

omit trans in
/-- Two sorted lists with the same elements of each rank, in the same order, are the same. -/
theorem eq_of_pairwise_of_class {xs ys : List α} (hxs : xs.Pairwise fun a b => le a b = true)
    (hys : ys.Pairwise fun a b => le a b = true)
    (h : ∀ a, xs.filter (fun b => le a b && le b a) = ys.filter fun b => le a b && le b a) :
    xs = ys := by
  have hrefl (a : α) : le a a = true := by simpa using total a a
  have hmem {xs ys : List α}
      (h : ∀ a, xs.filter (fun b => le a b && le b a) = ys.filter fun b => le a b && le b a)
      {a : α} (ha : a ∈ xs) : a ∈ ys := by
    have hfilter : a ∈ xs.filter fun b => le a b && le b a :=
      List.mem_filter.2 ⟨ha, by simp [hrefl]⟩
    rw [h] at hfilter
    exact (List.mem_filter.1 hfilter).1
  induction xs generalizing ys with
  | nil =>
    exact (List.eq_nil_iff_forall_not_mem.2 fun a ha =>
      List.not_mem_nil (hmem (fun a => (h a).symm) ha)).symm
  | cons x xs ih =>
    obtain _ | ⟨y, ys⟩ := ys
    · exact absurd (hmem h List.mem_cons_self) List.not_mem_nil
    rw [List.pairwise_cons] at hxs hys
    -- The heads are of the same rank, each of them being no more than the other.
    have hle : le x y = true := by
      rcases List.mem_cons.1 (hmem (fun a => (h a).symm) (List.mem_cons_self : y ∈ y :: ys)) with hyx | hyx
      · exact hyx ▸ hrefl _
      · exact hxs.1 y hyx
    have hge : le y x = true := by
      rcases List.mem_cons.1 (hmem h (List.mem_cons_self : x ∈ x :: xs)) with hxy | hxy
      · exact hxy ▸ hrefl _
      · exact hys.1 x hxy
    have hhead := h x
    simp only [List.filter_cons, hrefl, hle, hge, Bool.and_self, if_true] at hhead
    obtain ⟨rfl, -⟩ := List.cons.inj hhead
    refine congrArg _ (ih hxs.2 hys.2 fun a => ?_)
    have ha := h a
    simp only [List.filter_cons] at ha
    split at ha
    · exact (List.cons.inj ha).2
    · exact ha

/-- Leaving elements out before or behind the sorting is the same. -/
theorem filter_mergeSort (p : α → Bool) (xs : List α) :
    (xs.mergeSort le).filter p = (xs.filter p).mergeSort le := by
  have hclass (a b c : α) (hb : (le a b && le b a) = true) (hc : (le a c && le c a) = true) :
      le b c = true := by
    rw [Bool.and_eq_true] at hb hc
    exact trans b a c hb.2 hc.1
  refine eq_of_pairwise_of_class total
    ((List.pairwise_mergeSort trans total xs).filter p)
    (List.pairwise_mergeSort trans total _) fun a => ?_
  rw [filter_mergeSort_class trans total (hclass a), List.filter_comm,
    filter_mergeSort_class trans total (hclass a), List.filter_comm]

end

end Tablewright
