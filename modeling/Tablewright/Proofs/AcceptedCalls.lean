import Mathlib.Algebra.Group.Int.Defs
import Mathlib.Algebra.Group.Nat.Defs
import Mathlib.Data.List.Forall2
import Tablewright.Profile.Settings

/-!
# Accepted calls

What a call on a property changes, told by a rule for each kind of method: which arguments it takes, and
what they have to be. A call to which no rule applies is refused, with complaints about the call itself
or about one of its arguments.

## Key results

- `change_eq_ok_iff`: a call is accepted just if a rule applies to it
- `isRefused_of_change`: every other call is complained about, where it stands
-/

namespace Tablewright

namespace ProfileCall

/-- What a call on a property changes, in a dialect. -/
inductive Sets (symbols : SymbolTable) (d : Dialect) : ProfileCall → Change → Prop where
  | column {e : Source.Expr} {s : String} (l : Location) (hvalue : symbols.fold? e = some (.text s))
      (hblank : Text.trim s.toList ≠ []) : Sets symbols d ⟨"column", [e], l⟩ (.column s)
  | size {e : Source.Expr} {n : Nat} (l : Location) (hvalue : symbols.fold? e = some (.int n))
      (hrange : 0 < n ∧ n < 2 ^ 32) : Sets symbols d ⟨"size", [e], l⟩ (.size (.length n))
  | sizeMax (l : Location) : Sets symbols d ⟨"size_max", [], l⟩ (.size .max)
  | precision {e : Source.Expr} {n : Nat} (l : Location) (hvalue : symbols.fold? e = some (.int n))
      (hrange : n < 256) : Sets symbols d ⟨"precision", [e], l⟩ (.precision n)
  | scale {e : Source.Expr} {n : Nat} (l : Location) (hvalue : symbols.fold? e = some (.int n))
      (hrange : n < 256) : Sets symbols d ⟨"scale", [e], l⟩ (.scale n)
  | nullable (l : Location) : Sets symbols d ⟨"nullable", [], l⟩ (.nullable true)
  | required (l : Location) : Sets symbols d ⟨"required", [], l⟩ (.nullable false)
  | default {e : Source.Expr} {s : String} (l : Location) (hvalue : symbols.fold? e = some (.text s))
      (hblank : Text.trim s.toList ≠ []) : Sets symbols d ⟨"default_value", [e], l⟩ (.default s)
  | type {e : Source.Expr} {t : ColumnType} (l : Location)
      (hvalue : symbols.fold? e = some (.columnType t)) : Sets symbols d ⟨"db_type", [e], l⟩ (.type t)
  | sized {method : String} {t : ColumnType} {e : Source.Expr} {n : Nat} (l : Location)
      (hmethod : (method, .sized t) ∈ d.shorthands) (hvalue : symbols.fold? e = some (.int n))
      (hrange : 0 < n ∧ n < 2 ^ 32) :
      Sets symbols d ⟨method, [e], l⟩ (.typeAndSize t (some (.length n)))
  | max {method : String} {t : ColumnType} (l : Location) (hmethod : (method, .max t) ∈ d.shorthands) :
      Sets symbols d ⟨method, [], l⟩ (.typeAndSize t (some .max))
  | bare {method : String} {t : ColumnType} (l : Location) (hmethod : (method, .bare t) ∈ d.shorthands) :
      Sets symbols d ⟨method, [], l⟩ (.typeAndSize t none)
  | decimal {method : String} {t : ColumnType} {e e' : Source.Expr} {p q : Nat} (l : Location)
      (hmethod : (method, .decimal t) ∈ d.shorthands) (hprecision : symbols.fold? e = some (.int p))
      (hscale : symbols.fold? e' = some (.int q)) (hrange : p < 256 ∧ q < 256) :
      Sets symbols d ⟨method, [e, e'], l⟩ (.typeAndPrecision t p q)

/-- A place is that of a call, or of one of its arguments. -/
def IsAt (c : ProfileCall) (place : Location) : Prop :=
  place = c.location ∨ ∃ e ∈ c.arguments, place = ⟨c.location.file, e.position⟩

variable {c : ProfileCall} {symbols : SymbolTable} {d : Dialect} {ch : Change}

/-! ## Values of arguments -/

/-- What a search by name finds is in the list. -/
theorem mem_of_lookup_eq_some {α β : Type} [BEq α] [LawfulBEq α] {xs : List (α × β)} {x : α} {y : β}
    (h : xs.lookup x = some y) : (x, y) ∈ xs := by
  obtain ⟨before, after, rfl, -⟩ := List.lookup_eq_some_iff.1 h
  simp

/-- Going through a list succeeds just if it does at each place. -/
theorem mapM_eq_ok_iff {α β ε : Type} {f : α → Except ε β} {xs : List α} {ys : List β} :
    xs.mapM f = .ok ys ↔ List.Forall₂ (fun x y => f x = .ok y) xs ys := by
  induction xs generalizing ys with
  | nil => cases ys <;> simp [pure, Except.pure]
  | cons x xs ih =>
    rw [List.mapM_cons]
    cases hx : f x with
    | error e => cases ys <;> simp [bind, Except.bind, hx]
    | ok y =>
      cases hxs : xs.mapM f with
      | error e => cases ys <;> simp [bind, Except.bind, hx, ← ih, hxs]
      | ok zs => cases ys <;> simp [bind, Except.bind, pure, Except.pure, hx, ← ih, hxs]

/-- The error of a list is that of one of its elements. -/
theorem exists_of_mapM_eq_error {α β ε : Type} {f : α → Except ε β} {xs : List α} {e : ε}
    (h : xs.mapM f = .error e) : ∃ x ∈ xs, f x = .error e := by
  induction xs with
  | nil => cases h
  | cons x xs ih =>
    rw [List.mapM_cons] at h
    cases hx : f x with
    | error e' => exact ⟨x, by simp, by simpa [bind, Except.bind, hx] using h⟩
    | ok y =>
      cases hxs : xs.mapM f with
      | error e' =>
        obtain ⟨z, hz, he⟩ := ih (by simpa [bind, Except.bind, hx, hxs] using h)
        exact ⟨z, by simp [hz], he⟩
      | ok zs => simp [bind, Except.bind, pure, Except.pure, hx, hxs] at h

theorem values_eq_ok_iff {count : Nat} {vs : List Constant} : c.values symbols count = .ok vs ↔
    c.arguments.length = count ∧
      List.Forall₂ (fun e v => symbols.fold? e = some v) c.arguments vs := by
  rw [values]
  split
  · simp_all
  · rename_i hcount
    have hcount : c.arguments.length = count := by simpa using hcount
    rw [mapM_eq_ok_iff]
    refine ⟨fun h => ⟨hcount, h.imp fun e v hv => ?_⟩, fun h => h.2.imp fun e v hv => by simp only [hv]⟩
    split at hv
    · rename_i u hu
      cases hv
      exact hu
    · cases hv

/-- Arguments that have no values are complained about at the call or at one of them. -/
theorem isAt_of_values_eq_error {count : Nat} {problem : Problem × Location}
    (h : c.values symbols count = .error problem) : c.IsAt problem.2 := by
  rw [values] at h
  split at h
  · cases h
    exact .inl rfl
  · obtain ⟨e, he, hproblem⟩ := exists_of_mapM_eq_error h
    split at hproblem <;> cases hproblem
    exact .inr ⟨e, he, rfl⟩

theorem values_zero_eq_ok_iff {vs : List Constant} : c.values symbols 0 = .ok vs ↔
    c.arguments = [] ∧ vs = [] := by
  rw [values_eq_ok_iff, List.length_eq_zero_iff]
  constructor
  · rintro ⟨harguments, h⟩
    rw [harguments, List.forall₂_nil_left_iff] at h
    exact ⟨harguments, h⟩
  · rintro ⟨harguments, rfl⟩
    exact ⟨harguments, harguments ▸ .nil⟩

theorem values_one_eq_ok_iff {vs : List Constant} : c.values symbols 1 = .ok vs ↔
    ∃ e v, c.arguments = [e] ∧ symbols.fold? e = some v ∧ vs = [v] := by
  rw [values_eq_ok_iff, List.length_eq_one_iff]
  constructor
  · rintro ⟨⟨e, harguments⟩, h⟩
    rw [harguments] at h
    obtain ⟨v, _, hv, hrest, rfl⟩ := List.forall₂_cons_left_iff.1 h
    exact ⟨e, v, harguments, hv, by rw [List.forall₂_nil_left_iff.1 hrest]⟩
  · rintro ⟨e, v, harguments, hv, rfl⟩
    exact ⟨⟨e, harguments⟩, harguments ▸ .cons hv .nil⟩

theorem values_two_eq_ok_iff {vs : List Constant} : c.values symbols 2 = .ok vs ↔
    ∃ e e' v v', c.arguments = [e, e'] ∧ symbols.fold? e = some v ∧ symbols.fold? e' = some v' ∧
      vs = [v, v'] := by
  rw [values_eq_ok_iff, List.length_eq_two]
  constructor
  · rintro ⟨⟨e, e', harguments⟩, h⟩
    rw [harguments] at h
    obtain ⟨v, _, hv, htail, rfl⟩ := List.forall₂_cons_left_iff.1 h
    obtain ⟨v', _, hv', hrest, rfl⟩ := List.forall₂_cons_left_iff.1 htail
    exact ⟨e, e', v, v', harguments, hv, hv', by rw [List.forall₂_nil_left_iff.1 hrest]⟩
  · rintro ⟨e, e', v, v', harguments, hv, hv', rfl⟩
    exact ⟨⟨e, e', harguments⟩, harguments ▸ .cons hv (.cons hv' .nil)⟩

/-! ## Kinds of arguments -/

theorem expectText_eq_ok_iff {v : Constant} {s : String} :
    c.expectText v = .ok s ↔ v = .text s ∧ Text.trim s.toList ≠ [] := by
  cases v <;> simp [expectText]
  grind

theorem expectLength_eq_ok_iff {v : Constant} {n : Nat} :
    c.expectLength v = .ok n ↔ v = .int n ∧ 0 < n ∧ n < 2 ^ 32 := by
  have hlimit : (twoTo 32 : Int) = 2 ^ 32 := by decide
  cases v <;> simp [expectLength, hlimit]
  split <;> simp <;> omega

theorem expectSetting_eq_ok_iff {v : Constant} {n : Nat} :
    c.expectSetting v = .ok n ↔ v = .int n ∧ n < 256 := by
  cases v <;> simp [expectSetting]
  split <;> simp <;> omega

theorem expectType_eq_ok_iff {v : Constant} {t : ColumnType} :
    c.expectType v = .ok t ↔ v = .columnType t := by
  cases v <;> simp [expectType]

/-! ## Forms of calls -/

theorem changeOfNone_eq_ok_iff {change : Change} : c.changeOfNone symbols change = .ok ch ↔
    c.arguments = [] ∧ ch = change := by
  rw [changeOfNone]
  split
  next vs h => simp [(values_zero_eq_ok_iff.1 h).1, eq_comm]
  next problem h =>
    have hvalues : c.arguments ≠ [] := fun h' => by
      rw [values_zero_eq_ok_iff.2 ⟨h', rfl⟩] at h
      cases h
    simp [hvalues]

theorem changeOfOne_eq_ok_iff {α : Type} {expect : Constant → Except Problem α} {change : α → Change} :
    c.changeOfOne symbols expect change = .ok ch ↔
      ∃ e v a, c.arguments = [e] ∧ symbols.fold? e = some v ∧ expect v = .ok a ∧ ch = change a := by
  constructor
  · intro h
    rw [changeOfOne] at h
    split at h
    next v hv =>
      obtain ⟨e, v', harguments, hfold, hvs⟩ := values_one_eq_ok_iff.1 hv
      obtain ⟨rfl, -⟩ := List.cons.inj hvs
      split at h
      next a ha =>
        cases h
        exact ⟨e, v, a, harguments, hfold, ha, rfl⟩
      · cases h
    · cases h
    · cases h
  · rintro ⟨e, v, a, harguments, hfold, ha, rfl⟩
    rw [changeOfOne, values_one_eq_ok_iff.2 ⟨e, v, harguments, hfold, rfl⟩]
    simp only [ha]

theorem changeOfTwo_eq_ok_iff {change : Nat → Nat → Change} :
    c.changeOfTwo symbols change = .ok ch ↔
      ∃ e e' v v' p q, c.arguments = [e, e'] ∧ symbols.fold? e = some v ∧ symbols.fold? e' = some v' ∧
        c.expectSetting v = .ok p ∧ c.expectSetting v' = .ok q ∧ ch = change p q := by
  constructor
  · intro h
    rw [changeOfTwo] at h
    split at h
    next v v' hv =>
      obtain ⟨e, e', u, u', harguments, hfold, hfold', hvs⟩ := values_two_eq_ok_iff.1 hv
      simp only [List.cons.injEq, and_true] at hvs
      obtain ⟨rfl, rfl⟩ := hvs
      split at h
      next p q hp hq =>
        cases h
        exact ⟨e, e', v, v', p, q, harguments, hfold, hfold', hp, hq, rfl⟩
      all_goals cases h
    · cases h
    · cases h
  · rintro ⟨e, e', v, v', p, q, harguments, hfold, hfold', hp, hq, rfl⟩
    rw [changeOfTwo, values_two_eq_ok_iff.2 ⟨e, e', v, v', harguments, hfold, hfold', rfl⟩]
    simp only [hp, hq]

/-! ## Accepted calls -/

/-- What a call of a method that sets a type changes, or what is wrong with it. -/
def shorthandChange (c : ProfileCall) (symbols : SymbolTable) :
    Shorthand → Except (List (Problem × Location)) Change
  | .sized t => c.changeOfOne symbols c.expectLength fun n => .typeAndSize t (some (.length n))
  | .max t => c.changeOfNone symbols (.typeAndSize t (some .max))
  | .bare t => c.changeOfNone symbols (.typeAndSize t none)
  | .decimal t => c.changeOfTwo symbols (.typeAndPrecision t)

/-- No dialect sets a type by a method that is there for something else, or by two of one name. -/
theorem change_of_mem_shorthands {kind : Shorthand} (h : (c.method, kind) ∈ d.shorthands) :
    c.change symbols d = c.shorthandChange symbols kind := by
  obtain ⟨method, arguments, l⟩ := c
  cases d <;> simp only [Dialect.shorthands, List.mem_cons, Prod.mk.injEq, List.not_mem_nil, or_false] at h
  case sqlServer =>
    rcases h with ⟨rfl, rfl⟩ | ⟨rfl, rfl⟩ | ⟨rfl, rfl⟩ | ⟨rfl, rfl⟩ | ⟨rfl, rfl⟩ | ⟨rfl, rfl⟩ | ⟨rfl, rfl⟩ |
      ⟨rfl, rfl⟩ | ⟨rfl, rfl⟩ | ⟨rfl, rfl⟩ <;> rfl
  case postgres =>
    rcases h with ⟨rfl, rfl⟩ | ⟨rfl, rfl⟩ | ⟨rfl, rfl⟩ | ⟨rfl, rfl⟩ | ⟨rfl, rfl⟩ <;> rfl

/-- A method that sets a type is accepted just if a rule for such methods applies. -/
theorem sets_of_shorthandChange {kind : Shorthand} (hmethod : (c.method, kind) ∈ d.shorthands)
    (h : c.shorthandChange symbols kind = .ok ch) : c.Sets symbols d ch := by
  obtain ⟨method, arguments, l⟩ := c
  cases kind with
  | sized t =>
    obtain ⟨e, v, n, rfl, hv, hn, rfl⟩ := changeOfOne_eq_ok_iff.1 h
    obtain ⟨rfl, hrange⟩ := expectLength_eq_ok_iff.1 hn
    exact .sized l hmethod hv hrange
  | max t =>
    obtain ⟨rfl, rfl⟩ := changeOfNone_eq_ok_iff.1 h
    exact .max l hmethod
  | bare t =>
    obtain ⟨rfl, rfl⟩ := changeOfNone_eq_ok_iff.1 h
    exact .bare l hmethod
  | decimal t =>
    obtain ⟨e, e', v, v', p, q, rfl, hv, hv', hp, hq, rfl⟩ := changeOfTwo_eq_ok_iff.1 h
    obtain ⟨rfl, hprecision⟩ := expectSetting_eq_ok_iff.1 hp
    obtain ⟨rfl, hscale⟩ := expectSetting_eq_ok_iff.1 hq
    exact .decimal l hmethod hv hv' ⟨hprecision, hscale⟩

theorem sets_of_change (h : c.change symbols d = .ok ch) : c.Sets symbols d ch := by
  obtain ⟨method, arguments, l⟩ := c
  rw [change] at h
  split at h
  next hmethod =>
    obtain rfl : method = "column" := hmethod
    obtain ⟨e, v, s, rfl, hv, hs, rfl⟩ := changeOfOne_eq_ok_iff.1 h
    obtain ⟨rfl, hblank⟩ := expectText_eq_ok_iff.1 hs
    exact .column l hv hblank
  next hmethod =>
    obtain rfl : method = "size" := hmethod
    obtain ⟨e, v, n, rfl, hv, hn, rfl⟩ := changeOfOne_eq_ok_iff.1 h
    obtain ⟨rfl, hrange⟩ := expectLength_eq_ok_iff.1 hn
    exact .size l hv hrange
  next hmethod =>
    obtain rfl : method = "size_max" := hmethod
    obtain ⟨rfl, rfl⟩ := changeOfNone_eq_ok_iff.1 h
    exact .sizeMax l
  next hmethod =>
    obtain rfl : method = "precision" := hmethod
    obtain ⟨e, v, n, rfl, hv, hn, rfl⟩ := changeOfOne_eq_ok_iff.1 h
    obtain ⟨rfl, hrange⟩ := expectSetting_eq_ok_iff.1 hn
    exact .precision l hv hrange
  next hmethod =>
    obtain rfl : method = "scale" := hmethod
    obtain ⟨e, v, n, rfl, hv, hn, rfl⟩ := changeOfOne_eq_ok_iff.1 h
    obtain ⟨rfl, hrange⟩ := expectSetting_eq_ok_iff.1 hn
    exact .scale l hv hrange
  next hmethod =>
    obtain rfl : method = "nullable" := hmethod
    obtain ⟨rfl, rfl⟩ := changeOfNone_eq_ok_iff.1 h
    exact .nullable l
  next hmethod =>
    obtain rfl : method = "required" := hmethod
    obtain ⟨rfl, rfl⟩ := changeOfNone_eq_ok_iff.1 h
    exact .required l
  next hmethod =>
    obtain rfl : method = "default_value" := hmethod
    obtain ⟨e, v, s, rfl, hv, hs, rfl⟩ := changeOfOne_eq_ok_iff.1 h
    obtain ⟨rfl, hblank⟩ := expectText_eq_ok_iff.1 hs
    exact .default l hv hblank
  next hmethod =>
    obtain rfl : method = "db_type" := hmethod
    obtain ⟨e, v, t, rfl, hv, ht, rfl⟩ := changeOfOne_eq_ok_iff.1 h
    obtain rfl := expectType_eq_ok_iff.1 ht
    exact .type l hv
  next =>
    -- All that is left are the methods of the dialect, and those that no dialect has.
    split at h
    next t hlookup => exact sets_of_shorthandChange (mem_of_lookup_eq_some hlookup) h
    next t hlookup => exact sets_of_shorthandChange (mem_of_lookup_eq_some hlookup) h
    next t hlookup => exact sets_of_shorthandChange (mem_of_lookup_eq_some hlookup) h
    next t hlookup => exact sets_of_shorthandChange (mem_of_lookup_eq_some hlookup) h
    · cases h

theorem change_of_sets (h : c.Sets symbols d ch) : c.change symbols d = .ok ch := by
  cases h with
  | column l hvalue hblank =>
    exact changeOfOne_eq_ok_iff.2
      ⟨_, _, _, rfl, hvalue, expectText_eq_ok_iff.2 ⟨rfl, hblank⟩, rfl⟩
  | size l hvalue hrange =>
    exact changeOfOne_eq_ok_iff.2
      ⟨_, _, _, rfl, hvalue, expectLength_eq_ok_iff.2 ⟨rfl, hrange⟩, rfl⟩
  | precision l hvalue hrange | scale l hvalue hrange =>
    exact changeOfOne_eq_ok_iff.2
      ⟨_, _, _, rfl, hvalue, expectSetting_eq_ok_iff.2 ⟨rfl, hrange⟩, rfl⟩
  | default l hvalue hblank =>
    exact changeOfOne_eq_ok_iff.2
      ⟨_, _, _, rfl, hvalue, expectText_eq_ok_iff.2 ⟨rfl, hblank⟩, rfl⟩
  | type l hvalue =>
    exact changeOfOne_eq_ok_iff.2 ⟨_, _, _, rfl, hvalue, expectType_eq_ok_iff.2 rfl, rfl⟩
  | sizeMax l | nullable l | required l => rfl
  | sized l hmethod hvalue hrange =>
    rw [change_of_mem_shorthands hmethod]
    exact changeOfOne_eq_ok_iff.2
      ⟨_, _, _, rfl, hvalue, expectLength_eq_ok_iff.2 ⟨rfl, hrange⟩, rfl⟩
  | max l hmethod | bare l hmethod =>
    rw [change_of_mem_shorthands hmethod]
    rfl
  | decimal l hmethod hprecision hscale hrange =>
    rw [change_of_mem_shorthands hmethod]
    exact changeOfTwo_eq_ok_iff.2 ⟨_, _, _, _, _, _, rfl, hprecision, hscale,
      expectSetting_eq_ok_iff.2 ⟨rfl, hrange.1⟩, expectSetting_eq_ok_iff.2 ⟨rfl, hrange.2⟩, rfl⟩

/-- A call is accepted just if a rule applies to it. -/
theorem change_eq_ok_iff : c.change symbols d = .ok ch ↔ c.Sets symbols d ch :=
  ⟨sets_of_change, change_of_sets⟩

/-! ## Refused calls -/

/-- Complaints about a call: there is one at least, and each is about the call or one of its arguments. -/
def IsRefused (c : ProfileCall) (problems : List (Problem × Location)) : Prop :=
  problems ≠ [] ∧ ∀ problem ∈ problems, c.IsAt problem.2

theorem isRefused_of_values {count : Nat} {problem : Problem × Location}
    (h : c.values symbols count = .error problem) : c.IsRefused [problem] :=
  ⟨by simp, by simpa using isAt_of_values_eq_error h⟩

theorem isRefused_of_changeOfNone {change : Change} {problems : List (Problem × Location)}
    (h : c.changeOfNone symbols change = .error problems) : c.IsRefused problems := by
  rw [changeOfNone] at h
  split at h
  · cases h
  next problem hvalues =>
    cases h
    exact isRefused_of_values hvalues

theorem isRefused_of_changeOfOne {α : Type} {expect : Constant → Except Problem α} {change : α → Change}
    {problems : List (Problem × Location)}
    (h : c.changeOfOne symbols expect change = .error problems) : c.IsRefused problems := by
  rw [changeOfOne] at h
  split at h
  next v hvalues =>
    split at h
    · cases h
    next problem hproblem =>
      cases h
      exact ⟨by simp, by simp [IsAt]⟩
  next vs hvs hvalues =>
    obtain ⟨e, v, -, -, rfl⟩ := values_one_eq_ok_iff.1 hvalues
    exact absurd rfl (hvs v)
  next problem hvalues =>
    cases h
    exact isRefused_of_values hvalues

theorem isRefused_of_changeOfTwo {change : Nat → Nat → Change} {problems : List (Problem × Location)}
    (h : c.changeOfTwo symbols change = .error problems) : c.IsRefused problems := by
  rw [changeOfTwo] at h
  split at h
  next v v' hvalues =>
    split at h <;> cases h <;> exact ⟨by simp, by simp [IsAt]⟩
  next vs hvs hvalues =>
    obtain ⟨e, e', v, v', -, -, -, rfl⟩ := values_two_eq_ok_iff.1 hvalues
    exact absurd rfl (hvs v v')
  next problem hvalues =>
    cases h
    exact isRefused_of_values hvalues

/-- A call that is not accepted is complained about, where it stands. -/
theorem isRefused_of_change {problems : List (Problem × Location)}
    (h : c.change symbols d = .error problems) : c.IsRefused problems := by
  rw [change] at h
  split at h
  any_goals exact isRefused_of_changeOfOne h
  any_goals exact isRefused_of_changeOfNone h
  split at h
  · exact isRefused_of_changeOfOne h
  · exact isRefused_of_changeOfNone h
  · exact isRefused_of_changeOfNone h
  · exact isRefused_of_changeOfTwo h
  · cases h
    exact ⟨by simp, by simp [IsAt]⟩

end ProfileCall
end Tablewright
