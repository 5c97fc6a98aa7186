/-!
# Chunks of a list

A list cut into pieces of one length, the last of which may be shorter. `flatten_chunks` says that
nothing is lost, `length_le_of_mem_chunks` that no piece is longer and `length_of_mem_dropLast_chunks`
that none but the last one is shorter.
-/

namespace Tablewright

/-- The list in pieces of `n` elements, or of one where `n` is zero. -/
def chunks {α : Type} (n : Nat) : List α → List (List α)
  | [] => []
  | x :: rest => (x :: rest.take (n - 1)) :: chunks n (rest.drop (n - 1))
termination_by xs => xs.length
decreasing_by simp only [List.length_drop, List.length_cons]; omega

@[simp] theorem chunks_nil {α : Type} (n : Nat) : chunks n ([] : List α) = [] := by
  simp [chunks]

@[simp] theorem flatten_chunks {α : Type} (n : Nat) (xs : List α) : (chunks n xs).flatten = xs := by
  fun_induction chunks n xs with
  | case1 => rfl
  | case2 x rest ih => simp [ih]

theorem mem_of_mem_chunks {α : Type} {n : Nat} {x : α} {xs piece : List α}
    (h : piece ∈ chunks n xs) (hx : x ∈ piece) : x ∈ xs := by
  rw [← flatten_chunks n xs]
  exact List.mem_flatten.2 ⟨piece, h, hx⟩

theorem length_le_of_mem_chunks {α : Type} {n : Nat} {xs piece : List α}
    (h : piece ∈ chunks n xs) : piece.length ≤ max n 1 := by
  fun_induction chunks n xs with
  | case1 => simp at h
  | case2 x rest ih =>
    rcases List.mem_cons.1 h with rfl | h
    · simp only [List.length_cons, List.length_take]
      omega
    · exact ih h

theorem ne_nil_of_mem_chunks {α : Type} {n : Nat} {xs piece : List α}
    (h : piece ∈ chunks n xs) : piece ≠ [] := by
  fun_induction chunks n xs with
  | case1 => simp at h
  | case2 x rest ih =>
    rcases List.mem_cons.1 h with rfl | h
    · exact List.cons_ne_nil x _
    · exact ih h

theorem chunks_eq_nil {α : Type} {n : Nat} {xs : List α} : chunks n xs = [] ↔ xs = [] := by
  cases xs <;> simp [chunks]

theorem length_of_mem_dropLast_chunks {α : Type} {n : Nat} (hn : 0 < n) {xs piece : List α}
    (h : piece ∈ (chunks n xs).dropLast) : piece.length = n := by
  fun_induction chunks n xs with
  | case1 => simp at h
  | case2 x rest ih =>
    -- The first piece is not the last one only if something is left behind it.
    by_cases hrest : chunks n (rest.drop (n - 1)) = []
    · simp [hrest] at h
    · rw [List.dropLast_cons_of_ne_nil hrest] at h
      rcases List.mem_cons.1 h with rfl | h
      · have hlong := List.length_pos_iff.2 (mt chunks_eq_nil.2 hrest)
        simp only [List.length_drop, List.length_cons, List.length_take] at hlong ⊢
        omega
      · exact ih h

/-- A list is a single piece if it is not too long. -/
theorem length_chunks_eq_one {α : Type} {n : Nat} (hn : 0 < n) {xs : List α} (hne : xs ≠ []) :
    (chunks n xs).length = 1 ↔ xs.length ≤ n := by
  cases xs with
  | nil => exact absurd rfl hne
  | cons x rest =>
    rw [chunks, List.length_cons, Nat.add_eq_right, List.length_eq_zero_iff, chunks_eq_nil,
      List.drop_eq_nil_iff, List.length_cons]
    omega

end Tablewright
