import Tablewright.Store.Connection

/-!
# Runs of operations

What an operation answers from a state, and the state that it leaves, step by step. An operation that
goes on after another one runs it first; a fault of the first one ends both.
-/

namespace Tablewright

variable {ε σ α β : Type}

theorem run_pure (a : α) (s : σ) : (pure a : ExceptT ε (StateM σ) α).run s = (.ok a, s) := rfl

theorem run_get (s : σ) : (get : ExceptT ε (StateM σ) σ).run s = (.ok s, s) := rfl

theorem run_modify (f : σ → σ) (s : σ) :
    (modify f : ExceptT ε (StateM σ) PUnit).run s = (.ok ⟨⟩, f s) := rfl

theorem run_ofExcept_ok {x : Except ε α} {a : α} (h : x = .ok a) (s : σ) :
    (MonadExcept.ofExcept x : ExceptT ε (StateM σ) α).run s = (.ok a, s) := by
  rw [h]
  rfl

theorem run_bind (x : ExceptT ε (StateM σ) α) (f : α → ExceptT ε (StateM σ) β) (s : σ) :
    (x >>= f).run s = match x.run s with
      | (.ok a, s') => (f a).run s'
      | (.error e, s') => (.error e, s') := by
  rw [ExceptT.run_bind]
  show (match (x.run s).1 with
    | .ok a => (f a).run
    | .error e => (pure (.error e) : StateM σ (Except ε β))) (x.run s).2 = _
  rcases x.run s with ⟨r, s'⟩
  cases r with
  | ok a => rfl
  | error e => rfl

theorem run_bind_ok {x : ExceptT ε (StateM σ) α} {s s' : σ} {a : α} (h : x.run s = (.ok a, s'))
    (f : α → ExceptT ε (StateM σ) β) : (x >>= f).run s = (f a).run s' := by
  rw [run_bind, h]

theorem run_bind_error {x : ExceptT ε (StateM σ) α} {s s' : σ} {e : ε}
    (h : x.run s = (.error e, s')) (f : α → ExceptT ε (StateM σ) β) :
    (x >>= f).run s = (.error e, s') := by
  rw [run_bind, h]

/-- An operation whose answer is used fails as it does by itself. -/
theorem run_bind_pure {x : ExceptT ε (StateM σ) α} {s s' : σ} {r : Except ε α} (h : x.run s = (r, s'))
    (f : α → β) : (x >>= fun a => pure (f a)).run s = (r.map f, s') := by
  rw [run_bind, h]
  cases r <;> rfl

theorem run_ofExcept (x : Except ε α) (s : σ) :
    (MonadExcept.ofExcept x : ExceptT ε (StateM σ) α).run s = (x, s) := by
  cases x <;> rfl

/-- An operation that checks for a fault keeps the state. -/
theorem run_require (fault? : σ → Option Fault) (s : σ) :
    (Operation.require fault?).run s =
      ((match fault? s with
        | some fault => .error fault
        | none => .ok ()), s) := by
  rw [Operation.require, run_bind_ok (run_get s)]
  cases fault? s with
  | some fault => rfl
  | none => rfl

theorem run_require_none {fault? : σ → Option Fault} {s : σ} (h : fault? s = none) :
    (Operation.require fault?).run s = (.ok (), s) := by
  rw [run_require, h]

theorem run_require_some {fault? : σ → Option Fault} {s : σ} {fault : Fault}
    (h : fault? s = some fault) : (Operation.require fault?).run s = (.error fault, s) := by
  rw [run_require, h]

/-! ## Steps one after the other -/

/-- Steps that answer without a fault answer together. -/
theorem mapM_map_ok {γ : Type} {f : β → Except ε γ} {g : α → β} {h : α → γ} {xs : List α}
    (hf : ∀ x ∈ xs, f (g x) = .ok (h x)) : (xs.map g).mapM f = .ok (xs.map h) := by
  induction xs with
  | nil => rfl
  | cons x xs ih =>
    rw [List.map_cons, List.mapM_cons, hf x List.mem_cons_self,
      ih fun y hy => hf y (List.mem_cons_of_mem _ hy)]
    rfl

/-- Steps that answer the same from related states and leave related states do so one after the other. -/
theorem mapM_related {τ γ : Type} {R : σ → τ → Prop} {f : γ → StateM σ α} {g : γ → StateM τ α}
    {xs : List γ} (h : ∀ x ∈ xs, ∀ s u, R s u →
      ((f x).run s).1 = ((g x).run u).1 ∧ R ((f x).run s).2 ((g x).run u).2)
    {s : σ} {u : τ} (hR : R s u) :
    ((xs.mapM f).run s).1 = ((xs.mapM g).run u).1 ∧
      R ((xs.mapM f).run s).2 ((xs.mapM g).run u).2 := by
  -- Each step hands its state on to those behind it.
  induction xs generalizing s u with
  | nil => exact ⟨rfl, hR⟩
  | cons x xs ih =>
    obtain ⟨hanswer, hnext⟩ := h x List.mem_cons_self s u hR
    obtain ⟨hanswers, hlast⟩ := ih (fun y hy => h y (List.mem_cons_of_mem _ hy)) hnext
    rw [List.mapM_cons, List.mapM_cons]
    exact ⟨List.cons_eq_cons.2 ⟨hanswer, hanswers⟩, hlast⟩

end Tablewright
