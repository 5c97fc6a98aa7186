import Mathlib.Data.String.Basic
import Mathlib.Order.Compare
import Tablewright.Model.Diagnostic
import Tablewright.Proofs.StableSorting

/-!
# Sorted diagnostics

Diagnostics are shown from file to file and from top to bottom. The order is a total one, so that those
about one model and one dialect are shown as if there were no others.

## Key results

- `filter_sorted`: leaving diagnostics out before or behind the sorting is the same
-/

namespace Tablewright

/-- Elements can be compared by something that is taken from them. -/
theorem transCmp_comap {α β : Type} (cmp : β → β → Ordering) [h : Std.TransCmp cmp] (f : α → β) :
    Std.TransCmp fun a b => cmp (f a) (f b) where
  eq_swap := h.eq_swap
  isLE_trans := h.isLE_trans

/-- Steps are in the order of their kinds, and those of one kind in that of their texts. -/
theorem PathPart.transCmp_compare : Std.TransCmp PathPart.compare := by
  have hcompare : PathPart.compare =
      compareLex (fun a b => Ord.compare a.rank b.rank) fun a b => Ord.compare a.text b.text := by
    funext a b
    cases a <;> cases b <;> rfl
  have := transCmp_comap Ord.compare PathPart.rank
  have := transCmp_comap Ord.compare PathPart.text
  rw [hcompare]
  infer_instance

/-- Lists of steps are in the order of the first steps in which they differ. -/
theorem Path.compareParts_eq : ∀ a b : List PathPart,
    Path.compareParts a b = List.compareLex PathPart.compare a b
  | [], [] | [], _ :: _ | _ :: _, [] => rfl
  | a :: as, b :: bs => by
    rw [Path.compareParts, List.compareLex_cons_cons, compareParts_eq as bs]

theorem Path.transCmp_compare : Std.TransCmp Path.compare := by
  have := PathPart.transCmp_compare
  have hcompare : Path.compare = fun a b =>
      List.compareLex PathPart.compare (Path.parts a) (Path.parts b) := by
    funext a b
    exact Path.compareParts_eq _ _
  rw [hcompare]
  exact transCmp_comap _ Path.parts

theorem Location.transCmp_compare : Std.TransCmp Location.compare := by
  have := Path.transCmp_compare
  have := transCmp_comap Path.compare Location.file
  have := transCmp_comap Ord.compare fun l : Location => l.position.line
  have := transCmp_comap Ord.compare fun l : Location => l.position.column
  exact inferInstanceAs (Std.TransCmp (compareLex (fun a b : Location => Path.compare a.file b.file)
    (compareLex (fun a b => Ord.compare a.position.line b.position.line)
      fun a b => Ord.compare a.position.column b.position.column)))

namespace Diagnostic

theorem transCmp_compare : Std.TransCmp Diagnostic.compare := by
  have := Location.transCmp_compare
  have := transCmp_comap Location.compare Diagnostic.location
  have := transCmp_comap Ord.compare fun e : Diagnostic => e.kind.code
  exact inferInstanceAs (Std.TransCmp (compareLex
    (fun a b : Diagnostic => a.location.compare b.location) fun a b => Ord.compare a.kind.code b.kind.code))

/-- Leaving diagnostics out before or behind the sorting is the same. -/
theorem filter_sorted (p : Diagnostic → Bool) (ds : List Diagnostic) :
    (sorted ds).filter p = sorted (ds.filter p) := by
  have h := transCmp_compare
  have trans (a b c : Diagnostic) (hab : (a.compare b).isLE = true) (hbc : (b.compare c).isLE = true) :
      (a.compare c).isLE = true := h.isLE_trans hab hbc
  have total (a b : Diagnostic) : ((a.compare b).isLE || (b.compare a).isLE) = true := by
    have hswap : a.compare b = (b.compare a).swap := h.eq_swap
    rw [hswap, Bool.or_eq_true]
    cases b.compare a <;> simp
  rw [sorted, sorted]
  exact filter_mergeSort trans total p ds

end Diagnostic

end Tablewright
