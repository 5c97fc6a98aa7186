import Mathlib.Algebra.Group.Int.Defs
import Mathlib.Algebra.Group.Nat.Defs
import Mathlib.Data.List.Basic
import Mathlib.Logic.Relation
import Mathlib.Order.WellFounded
import Tablewright.Profile.Constant
import Tablewright.Proofs.Cutting

/-!
# Folded constants

The value of an expression told by rules: literals stand for themselves, paths for column types or for
what a declared constant is worth. Folding follows constants one after the other and stops where it is
about to follow one a second time; it finds just the values that the rules give.

## Key results

- `asks_wellFounded`: folding comes to an end
- `isCyclic_of_followed`: only a constant that refers to itself is met while it is followed
- `fold?_eq_some_iff`: folding finds what the rules give
- `folds_by_rules`: all of it, for any table of constants
-/

namespace Tablewright

/-! ## Rules -/

/-- A letter or an underscore, and then letters, numbers and underscores. -/
def Text.IsSymbol (name : List Char) : Prop :=
  ∃ first rest, name = first :: rest ∧ (isLetter first = true ∨ first = '_') ∧
    ∀ c ∈ rest, isLetterOrNumber c = true ∨ c = '_'

/-- A path ends in a name among the column types of a dialect, whether or not that is one of them. -/
def IsColumnTypePath (segments : List String) : Prop :=
  ∃ front d variant, segments = front ++ [ColumnType.enumName d, variant]

namespace SymbolTable

/-- What an expression is worth. -/
inductive Derives (t : SymbolTable) : Source.Expr → Constant → Prop where
  | text (s : String) (p : Source.Position) : Derives t (.literal (.text s) p) (.text s)
  | int {n : Nat} (p : Source.Position) (h : n < 2 ^ 127) : Derives t (.literal (.int n) p) (.int n)
  | float (x : Double) (p : Source.Position) : Derives t (.literal (.float x) p) (.float x)
  | bool (b : Bool) (p : Source.Position) : Derives t (.literal (.bool b) p) (.bool b)
  | negatedInt {e : Source.Expr} {n : Int} (p : Source.Position) (h : Derives t e (.int n)) :
      Derives t (.negation e p) (.int (-n))
  | negatedFloat {e : Source.Expr} {x : Double} (p : Source.Position) (h : Derives t e (.float x)) :
      Derives t (.negation e p) (.float x.neg)
  | reference {e : Source.Expr} {c : Constant} (p : Source.Position) (h : Derives t e c) :
      Derives t (.reference e p) c
  | symbol {path : List String} {tokens name : String} (p : Source.Position)
      (hpath : path.getLast? = some "stringify") (hname : Text.IsSymbol name.toList)
      (htokens : Text.trim tokens.toList = name.toList ∨
        Text.trim tokens.toList = "r#".toList ++ name.toList) :
      Derives t (.macroCall path tokens p) (.text name)
  | columnType (front : List String) (type : ColumnType) (p : Source.Position) :
      Derives t (.path (front ++ [ColumnType.enumName type.dialect, type.variantName]) p)
        (.columnType type)
  | unknownColumnType (front : List String) {d : Dialect} {variant : String} (p : Source.Position)
      (h : ∀ type : ColumnType, type.dialect = d → type.variantName ≠ variant) :
      Derives t (.path (front ++ [ColumnType.enumName d, variant]) p)
        (.unknownColumnType (ColumnType.enumName d ++ "::" ++ variant))
  | constant {segments : List String} {s : Symbol} {c : Constant} (p : Source.Position)
      (hother : ¬IsColumnTypePath segments) (hfind : t.find? segments = some s)
      (h : Derives t s.value c) : Derives t (.path segments p) c

end SymbolTable

/-- The path that the value of an expression is taken from, if it is taken from one. -/
def Source.Expr.origin? : Source.Expr → Option (List String)
  | .path segments _ => some segments
  | .negation e _ | .reference e _ => e.origin?
  | _ => none

namespace SymbolTable

variable (t : SymbolTable)

/-- The value of an expression is taken from a constant. -/
def Uses (e : Source.Expr) (s : Symbol) : Prop :=
  ∃ segments, e.origin? = some segments ∧ ¬IsColumnTypePath segments ∧ t.find? segments = some s

/-- The value of a constant is taken from another one. -/
def Refers (s s' : Symbol) : Prop := t.Uses s.value s'

/-- The value of a constant is taken from the constant itself, at once or by way of others. -/
def IsCyclic (s : Symbol) : Prop := Relation.TransGen t.Refers s s

/-- The value of an expression while constants are being followed. -/
def valueFollowing? (followed : List String) (e : Source.Expr) : Option Constant :=
  Constant.ofExpr? (t.valueOfPath? (t.size + 1) followed) e

/-- Folding an expression while constants are being followed asks for the value of another expression,
with one constant more followed if that is its value. -/
inductive Asks : List String × Source.Expr → List String × Source.Expr → Prop where
  | negation (followed : List String) (e : Source.Expr) (p : Source.Position) :
      Asks (followed, .negation e p) (followed, e)
  | reference (followed : List String) (e : Source.Expr) (p : Source.Position) :
      Asks (followed, .reference e p) (followed, e)
  | constant {followed segments : List String} {s : Symbol} (p : Source.Position)
      (hother : ¬IsColumnTypePath segments) (hfind : t.find? segments = some s)
      (hnew : s.key ∉ followed) : Asks (followed, .path segments p) (s.key :: followed, s.value)

/-- The parts of the names of constants are there, and nothing in them looks like what stands between
two of them. -/
def IsPlain : Prop :=
  ∀ s ∈ t.symbols, ∀ part ∈ s.module ++ [s.name], part ≠ "" ∧ ':' ∉ part.toList

end SymbolTable

/-! ## Column types -/

theorem ColumnType.ofVariantName?_eq_some_iff {d : Dialect} {variant : String} {type : ColumnType} :
    ofVariantName? d variant = some type ↔ type.dialect = d ∧ type.variantName = variant := by
  constructor
  · intro h
    refine ⟨?_, by simpa using List.find?_some h⟩
    cases d with
    | sqlServer =>
      obtain ⟨_, -, rfl⟩ := List.mem_map.1 (List.mem_of_find?_eq_some h)
      rfl
    | postgres =>
      obtain ⟨_, -, rfl⟩ := List.mem_map.1 (List.mem_of_find?_eq_some h)
      rfl
  · rintro ⟨rfl, rfl⟩
    cases type with
    | sqlServer type => cases type <;> rfl
    | postgres type => cases type <;> rfl

theorem ColumnType.dialectOfEnum?_eq_some_iff {enum : String} {d : Dialect} :
    dialectOfEnum? enum = some d ↔ enum = enumName d := by
  constructor
  · intro h
    have henum := List.find?_some h
    exact (eq_of_beq henum).symm
  · rintro rfl
    cases d <;> rfl

namespace Constant

/-- A path that ends in a name among the column types of a dialect stands for that type or, if there is
none, for its name. -/
theorem columnTypeOfPath?_append (front : List String) (d : Dialect) (variant : String) :
    columnTypeOfPath? (front ++ [ColumnType.enumName d, variant]) =
      some ((ColumnType.ofVariantName? d variant).elim
        (unknownColumnType (ColumnType.enumName d ++ "::" ++ variant)) columnType) := by
  have hd := ColumnType.dialectOfEnum?_eq_some_iff.2 (rfl : ColumnType.enumName d = _)
  simp only [columnTypeOfPath?, List.reverse_append, List.reverse_cons, List.reverse_nil,
    List.nil_append, List.cons_append, ColumnType.ofPath?, hd, Option.bind_some]
  cases ColumnType.ofVariantName? d variant <;> rfl

theorem columnTypeOfPath?_eq_none_iff {segments : List String} :
    columnTypeOfPath? segments = none ↔ ¬IsColumnTypePath segments := by
  constructor
  · rintro h ⟨front, d, variant, rfl⟩
    rw [columnTypeOfPath?_append] at h
    cases h
  · intro h
    rw [columnTypeOfPath?]
    split
    next variant enum front hsegments =>
      have hnone : ColumnType.dialectOfEnum? enum = none :=
        Option.eq_none_iff_forall_ne_some.2 fun d hd => h ⟨front.reverse, d, variant, by
          rw [← ColumnType.dialectOfEnum?_eq_some_iff.1 hd, ← List.reverse_reverse segments,
            hsegments]
          simp⟩
      simp [ColumnType.ofPath?, hnone]
    next => rfl

end Constant

/-! ## Names by `stringify!` -/

/-- A symbol does not begin with the mark of a raw name. -/
theorem Text.IsSymbol.after?_raw {name : List Char} (h : IsSymbol name) :
    after? "r#".toList name = none := by
  cases hafter : after? "r#".toList name with
  | none => rfl
  | some rest =>
    obtain ⟨first, others, hname, -, hothers⟩ := h
    rw [eq_append_of_after? hafter] at hname
    obtain ⟨-, rfl⟩ := List.cons.inj hname
    exact absurd (hothers '#' List.mem_cons_self) (by decide)

/-- The name in a macro is all there is between the brackets, but for the mark of a raw name. -/
theorem Constant.symbolicName?_eq_some_iff {tokens name : String} :
    symbolicName? tokens = some name ↔ Text.IsSymbol name.toList ∧
      (Text.trim tokens.toList = name.toList ∨
        Text.trim tokens.toList = "r#".toList ++ name.toList) := by
  have hread : symbolicName? tokens = some name ↔ Text.IsSymbol name.toList ∧
      (Text.after? "r#".toList (Text.trim tokens.toList)).getD (Text.trim tokens.toList) =
        name.toList := by
    simp only [symbolicName?]
    split
    next first rest hstripped =>
      rw [hstripped]
      have hsymbol : ((Text.isLetter first || first == '_') &&
          rest.all fun c => Text.isLetterOrNumber c || c == '_') = true ↔
            Text.IsSymbol (first :: rest) := by
        simp [Text.IsSymbol]
      by_cases hs : Text.IsSymbol (first :: rest)
      · rw [if_pos (hsymbol.2 hs), Option.some.injEq]
        constructor
        · rintro rfl
          simpa using hs
        · rintro ⟨-, hname⟩
          rw [hname, String.ofList_toList]
      · rw [if_neg (mt hsymbol.1 hs)]
        refine ⟨nofun, ?_⟩
        rintro ⟨hname, heq⟩
        exact absurd (heq ▸ hname) hs
    next hstripped =>
      refine ⟨nofun, ?_⟩
      rintro ⟨⟨first, rest, hname, -⟩, heq⟩
      rw [hstripped, hname] at heq
      cases heq
  rw [hread]
  refine and_congr_right fun hsymbol => ?_
  cases hafter : Text.after? "r#".toList (Text.trim tokens.toList) with
  | none =>
    refine ⟨.inl, ?_⟩
    rintro (h | h)
    · exact h
    · rw [h, Text.after?_append] at hafter
      cases hafter
  | some rest =>
    rw [Text.eq_append_of_after? hafter]
    refine ⟨fun h => .inr (congrArg _ h), ?_⟩
    rintro (h | h)
    · have hnone := hsymbol.after?_raw
      rw [← h, Text.after?_append] at hnone
      cases hnone
    · exact List.append_cancel_left h

/-! ## Lookup -/

/-- Only one element of a list has a property. -/
theorem filter_eq_singleton {α : Type} {p : α → Bool} {xs : List α} {a : α}
    (h : xs.filter p = [a]) : a ∈ xs ∧ p a = true ∧ ∀ b ∈ xs, p b = true → b = a := by
  have ha : a ∈ xs.filter p := h ▸ List.mem_singleton_self a
  refine ⟨(List.mem_filter.1 ha).1, (List.mem_filter.1 ha).2, fun b hb hp => ?_⟩
  exact List.mem_singleton.1 (h ▸ List.mem_filter.2 ⟨hb, hp⟩)

namespace SymbolTable

variable {t : SymbolTable}

/-- A path names the only constant of its name or, of several, the only one in a module that ends in
the modules of the path. -/
theorem find?_eq_some_iff {segments : List String} {s : Symbol} :
    t.find? segments = some s ↔ ∃ name, segments.getLast? = some name ∧
      (t.symbols.filter (·.name == name) = [s] ∨
        namedSegments segments.dropLast ≠ [] ∧ (t.symbols.filter (·.name == name)).filter
          (fun c => (namedSegments segments.dropLast).isSuffixOf c.module) = [s]) := by
  rw [find?]
  cases segments.getLast? with
  | none => simp
  | some name =>
    simp only [Option.some.injEq, exists_eq_left']
    split
    next only honly =>
      rw [honly]
      simp only [Option.some.injEq, List.cons.injEq, and_true]
      refine ⟨.inl, ?_⟩
      rintro (h | ⟨-, h⟩)
      · exact h
      · exact (List.mem_singleton.1 (filter_eq_singleton h).1).symm
    next hseveral =>
      have hnone (s : Symbol) : t.symbols.filter (·.name == name) ≠ [s] := hseveral s
      by_cases hmodules : namedSegments segments.dropLast = []
      · simp [hmodules, hnone]
      · simp only [List.isEmpty_eq_false_iff.2 hmodules, Bool.false_eq_true, if_false, hnone, false_or,
          ne_eq, hmodules, not_false_eq_true, true_and]
        split
        next only honly => rw [honly, Option.some.injEq, List.cons.injEq, and_iff_left rfl]
        next hother => exact ⟨nofun, fun h => absurd h (hother s)⟩

/-- A constant that some path names is declared, and is the only one of its module and name. -/
theorem unique_of_find? {segments : List String} {s : Symbol} (h : t.find? segments = some s) :
    s ∈ t.symbols ∧ ∀ s' ∈ t.symbols, s'.module = s.module → s'.name = s.name → s' = s := by
  obtain ⟨name, -, hname | ⟨-, hmodule⟩⟩ := find?_eq_some_iff.1 h
  · obtain ⟨hmem, hs, honly⟩ := filter_eq_singleton hname
    exact ⟨hmem, fun s' hs' _ hsame => honly s' hs' (by rwa [hsame])⟩
  · rw [List.filter_filter] at hmodule
    obtain ⟨hmem, hs, honly⟩ := filter_eq_singleton hmodule
    exact ⟨hmem, fun s' hs' hsame hsame' => honly s' hs' (by rwa [hsame, hsame'])⟩

end SymbolTable

/-! ## Full names -/

/-- The parts of a full name, with an empty one in front of a constant at the root. -/
def Symbol.parts (s : Symbol) : List String :=
  (if s.module = [] then [""] else s.module) ++ [s.name]

theorem Symbol.toList_key (s : Symbol) :
    s.key.toList = "::".toList.intercalate (s.parts.map String.toList) := by
  rw [key, parts, String.toList_append, String.toList_append, String.toList_intercalate]
  by_cases h : s.module = []
  · simp [h]
  · rw [if_neg h, List.map_append, List.map_cons, List.map_nil,
      Text.intercalate_concat (by simpa using h)]

namespace SymbolTable

variable {t : SymbolTable}

theorem IsPlain.colon_notMem (h : t.IsPlain) {s : Symbol} (hs : s ∈ t.symbols) :
    ∀ part ∈ s.parts, ':' ∉ part.toList := by
  intro part hpart
  rcases List.mem_append.1 hpart with hpart | hpart
  · split at hpart
    · rw [List.mem_singleton.1 hpart]
      decide
    · exact (h s hs part (List.mem_append_left _ hpart)).2
  · exact (h s hs part (List.mem_append_right _ hpart)).2

/-- Full names tell constants apart, as far as their modules and names go. -/
theorem IsPlain.key_injective (h : t.IsPlain) {s s' : Symbol} (hs : s ∈ t.symbols)
    (hs' : s' ∈ t.symbols) (hkey : s.key = s'.key) : s.module = s'.module ∧ s.name = s'.name := by
  have hsplit {s : Symbol} (hs : s ∈ t.symbols) :
      Text.split "::".toList s.key.toList = s.parts.map String.toList := by
    rw [s.toList_key]
    refine Text.split_of_notMem rfl (by simp [Symbol.parts]) fun p hp => ?_
    obtain ⟨part, hpart, rfl⟩ := List.mem_map.1 hp
    exact h.colon_notMem hs part hpart
  have hparts : s.parts = s'.parts := by
    refine List.map_injective_iff.2 (fun _ _ => String.toList_injective) ?_
    rw [← hsplit hs, hkey, hsplit hs']
  obtain ⟨hmodule, hname⟩ := List.append_inj' hparts rfl
  refine ⟨?_, (List.cons.inj hname).1⟩
  -- A constant at the root has an empty part, which no module has.
  have hempty {s : Symbol} (hs : s ∈ t.symbols) : s.module ≠ [""] := fun hroot =>
    (h s hs "" (List.mem_append_left _ (hroot ▸ List.mem_singleton_self _))).1 rfl
  by_cases hroot : s.module = [] <;> by_cases hroot' : s'.module = []
  · rw [hroot, hroot']
  · rw [if_pos hroot, if_neg hroot'] at hmodule
    exact absurd hmodule.symm (hempty hs')
  · rw [if_neg hroot, if_pos hroot'] at hmodule
    exact absurd hmodule (hempty hs)
  · rwa [if_neg hroot, if_neg hroot'] at hmodule

/-- A full name is that of one constant at most, of those that paths name. -/
theorem IsPlain.eq_of_key (h : t.IsPlain) {segments segments' : List String} {s s' : Symbol}
    (hs : t.find? segments = some s) (hs' : t.find? segments' = some s') (hkey : s'.key = s.key) :
    s' = s := by
  obtain ⟨hmem, honly⟩ := unique_of_find? hs
  have hmem' := (unique_of_find? hs').1
  obtain ⟨hmodule, hname⟩ := h.key_injective hmem' hmem hkey
  exact honly s' hmem' hmodule hname

/-! ## Coming to an end -/

variable (t) in
/-- The number of constants that are not being followed. -/
def unfollowed (followed : List String) : Nat := t.symbols.countP fun s => !followed.contains s.key

theorem unfollowed_le (followed : List String) : t.unfollowed followed ≤ t.size :=
  List.countP_le_length

/-- Following one more constant leaves fewer of them. -/
theorem unfollowed_lt {followed : List String} {s : Symbol} (hs : s ∈ t.symbols)
    (hnew : s.key ∉ followed) : t.unfollowed (s.key :: followed) < t.unfollowed followed := by
  obtain ⟨front, rest, hsymbols⟩ := List.append_of_mem hs
  -- No constant is counted that was not counted before, and the new one is not counted any more.
  have hle (xs : List Symbol) : xs.countP (fun s' => !(s.key :: followed).contains s'.key) ≤
      xs.countP fun s' => !followed.contains s'.key :=
    List.countP_mono_left fun s' _ h => by simp_all
  have hfront := hle front
  have hrest := hle rest
  have hold : (!(s.key :: followed).contains s.key) = false := by simp
  have hcounted : (!followed.contains s.key) = true := by simp [hnew]
  simp only [unfollowed, hsymbols, List.countP_append, List.countP_cons, hold, hcounted, if_true]
  simp only [Bool.false_eq_true, if_false]
  omega

/-- Folding comes to an end: it asks for a smaller expression, or follows one more constant. -/
theorem asks_wellFounded (t : SymbolTable) : WellFounded fun after before => t.Asks before after := by
  refine Subrelation.wf (r := InvImage (Prod.Lex (· < ·) (· < ·)) fun state =>
    (t.unfollowed state.1, sizeOf state.2)) ?_
    (InvImage.wf _ (WellFounded.prod_lex Nat.lt_wfRel.wf Nat.lt_wfRel.wf))
  intro after before h
  cases h with
  | negation followed e p => exact Prod.Lex.right _ (by simp; omega)
  | reference followed e p => exact Prod.Lex.right _ (by simp; omega)
  | constant p _ hfind hnew => exact Prod.Lex.left _ _ (unfollowed_lt (unique_of_find? hfind).1 hnew)

/-- The bound on the number of constants followed is never what ends the search. -/
theorem valueOfPath?_eq {steps steps' : Nat} {followed : List String}
    (h : t.unfollowed followed < steps) (h' : t.unfollowed followed < steps') :
    t.valueOfPath? steps followed = t.valueOfPath? steps' followed := by
  induction steps generalizing steps' followed with
  | zero => exact absurd h (Nat.not_lt_zero _)
  | succ steps ih =>
    obtain _ | steps' := steps'
    · exact absurd h' (Nat.not_lt_zero _)
    funext segments
    simp only [valueOfPath?]
    cases Constant.columnTypeOfPath? segments with
    | some c => rfl
    | none =>
      cases hfind : t.find? segments with
      | none => rfl
      | some s =>
        by_cases hnew : s.key ∈ followed
        · simp [hnew]
        · have hlt := unfollowed_lt (unique_of_find? hfind).1 hnew
          simp only [List.contains_iff_mem, hnew, if_false]
          exact congrArg (Constant.ofExpr? · s.value) (ih (by omega) (by omega))

/-- The value of a path is that of a column type, or of the constant that it names unless that is being
followed already. -/
theorem valueFollowing?_path (followed segments : List String) (p : Source.Position) :
    t.valueFollowing? followed (.path segments p) =
      (Constant.columnTypeOfPath? segments).or ((t.find? segments).bind fun s =>
        if s.key ∈ followed then none else t.valueFollowing? (s.key :: followed) s.value) := by
  simp only [valueFollowing?, Constant.ofExpr?]
  rw [valueOfPath?]
  cases Constant.columnTypeOfPath? segments with
  | some c => rfl
  | none =>
    cases hfind : t.find? segments with
    | none => rfl
    | some s =>
      by_cases hnew : s.key ∈ followed
      · simp [hnew]
      · have hlt := unfollowed_lt (unique_of_find? hfind).1 hnew
        have hle := t.unfollowed_le followed
        simp only [List.contains_iff_mem, hnew, if_false, Option.none_or, Option.bind_some]
        rw [valueOfPath?_eq (by omega : _ < t.size) (by omega : _ < t.size + 1)]

/-! ## What the rules give -/

/-- Paths are worth what the rules give if the constants that they name are. -/
theorem Derives.of_ofExpr? {value : List String → Option Constant}
    (hpath : ∀ segments c, value segments = some c → ∀ p, t.Derives (.path segments p) c) :
    ∀ (e : Source.Expr) (c : Constant), Constant.ofExpr? value e = some c → t.Derives e c
  | .literal (.text s) p, c, h => by
    obtain rfl := Option.some.inj h
    exact .text s p
  | .literal (.int n) p, c, h => by
    simp only [Constant.ofExpr?, Constant.ofLiteral?] at h
    split at h
    next hn =>
      obtain rfl := Option.some.inj h
      exact .int p hn
    next => cases h
  | .literal (.float x) p, c, h => by
    obtain rfl := Option.some.inj h
    exact .float x p
  | .literal (.bool b) p, c, h => by
    obtain rfl := Option.some.inj h
    exact .bool b p
  | .literal .other p, c, h => by cases h
  | .negation e p, c, h => by
    obtain ⟨inner, hinner, h⟩ := Option.bind_eq_some_iff.1 h
    have hderives := Derives.of_ofExpr? hpath e inner hinner
    cases inner with
    | int n => exact Option.some.inj h ▸ .negatedInt p hderives
    | float x => exact Option.some.inj h ▸ .negatedFloat p hderives
    | text _ => cases h
    | bool _ => cases h
    | columnType _ => cases h
    | unknownColumnType _ => cases h
  | .reference e p, c, h => .reference p (Derives.of_ofExpr? hpath e c h)
  | .macroCall path tokens p, c, h => by
    simp only [Constant.ofExpr?] at h
    split at h
    next hmacro =>
      obtain ⟨name, hname, rfl⟩ := Option.map_eq_some_iff.1 h
      obtain ⟨hsymbol, htokens⟩ := Constant.symbolicName?_eq_some_iff.1 hname
      exact .symbol p hmacro hsymbol htokens
    next => cases h
  | .path segments p, c, h => hpath segments c h p
  | .field .., c, h | .methodCall .., c, h | .call .., c, h | .closure .., c, h | .block .., c, h
  | .other .., c, h => by cases h

/-- A path that stands for a column type, or for a name among them, is worth what the rules give. -/
theorem Derives.of_columnTypeOfPath? {segments : List String} {c : Constant}
    (h : Constant.columnTypeOfPath? segments = some c) (p : Source.Position) :
    t.Derives (.path segments p) c := by
  have hpath : IsColumnTypePath segments := by
    by_contra hno
    rw [Constant.columnTypeOfPath?_eq_none_iff.2 hno] at h
    cases h
  obtain ⟨front, d, variant, rfl⟩ := hpath
  rw [Constant.columnTypeOfPath?_append] at h
  obtain rfl := Option.some.inj h
  cases htype : ColumnType.ofVariantName? d variant with
  | some type =>
    obtain ⟨rfl, rfl⟩ := ColumnType.ofVariantName?_eq_some_iff.1 htype
    exact .columnType front type p
  | none =>
    refine .unknownColumnType front p fun type hdialect hname => ?_
    rw [ColumnType.ofVariantName?_eq_some_iff.2 ⟨hdialect, hname⟩] at htype
    cases htype

/-- Whatever constants are being followed, folding finds only what the rules give. -/
theorem Derives.of_valueOfPath? {steps : Nat} {followed segments : List String} {c : Constant}
    (h : t.valueOfPath? steps followed segments = some c) (p : Source.Position) :
    t.Derives (.path segments p) c := by
  induction steps generalizing followed segments c p with
  | zero => cases h
  | succ steps ih =>
    rw [valueOfPath?] at h
    split at h
    next c' hc =>
      obtain rfl := Option.some.inj h
      exact .of_columnTypeOfPath? hc p
    next hother =>
      split at h
      next => cases h
      next s hfind =>
        split at h
        next => cases h
        next =>
          exact .constant p (Constant.columnTypeOfPath?_eq_none_iff.1 hother) hfind
            (.of_ofExpr? (fun _ _ hvalue p => ih hvalue p) _ _ h)

/-! ## Cycles -/

theorem uses_path {segments : List String} {p : Source.Position} {s : Symbol} :
    t.Uses (.path segments p) s ↔ ¬IsColumnTypePath segments ∧ t.find? segments = some s := by
  simp [Uses, Source.Expr.origin?]

/-- No chain of constants that begins with one whose value the rules give goes on for ever. -/
theorem Derives.acc {e : Source.Expr} {c : Constant} (h : t.Derives e c) {s : Symbol}
    (hs : t.Uses e s) : Acc (fun s' s => t.Refers s s') s := by
  induction h generalizing s with
  | negatedInt _ _ ih | negatedFloat _ _ ih | reference _ _ ih => exact ih hs
  | columnType front type p => exact absurd ⟨front, _, _, rfl⟩ (uses_path.1 hs).1
  | unknownColumnType front p _ => exact absurd ⟨front, _, _, rfl⟩ (uses_path.1 hs).1
  | constant p _ hfind _ ih =>
    obtain rfl := Option.some.inj (hfind.symm.trans (uses_path.1 hs).2)
    exact Acc.intro _ fun s' hs' => ih hs'
  | text | int | float | bool | symbol =>
    obtain ⟨_, horigin, -⟩ := hs
    cases horigin

/-- Going round a cycle goes on for ever. -/
theorem not_isCyclic_of_acc {s : Symbol} (h : Acc (fun s' s => t.Refers s s') s) :
    ¬t.IsCyclic s := by
  induction h with
  | intro s _ ih =>
    intro hcycle
    obtain ⟨s', hs', hback⟩ := Relation.TransGen.head'_iff.1 hcycle
    exact ih s' hs' (Relation.TransGen.tail' hback hs')

/-- What the rules give is not taken from a constant that leads to a cycle. -/
theorem not_isCyclic_of_derives {e : Source.Expr} {c : Constant} (h : t.Derives e c) {s s' : Symbol}
    (hs : t.Uses e s) (hreach : Relation.ReflTransGen t.Refers s s') : ¬t.IsCyclic s' := by
  refine not_isCyclic_of_acc ?_
  induction hreach with
  | refl => exact h.acc hs
  | tail _ hstep ih => exact ih.inv hstep

variable (t) in
/-- The value of an expression is taken, by way of others, from each constant that is being followed. -/
def Follows (state : List String × Source.Expr) : Prop :=
  ∀ key ∈ state.1, ∃ s segments, s.key = key ∧ t.find? segments = some s ∧
    ∀ s', t.Uses state.2 s' → Relation.TransGen t.Refers s s'

/-- Folding only follows constants on the way to what it asks for. -/
theorem follows_of_asks {before after : List String × Source.Expr} (h : t.Asks before after)
    (hfollows : t.Follows before) : t.Follows after := by
  cases h with
  | negation followed e p => exact hfollows
  | reference followed e p => exact hfollows
  | @constant followed segments s p hother hfind hnew =>
    intro key hkey
    rcases List.mem_cons.1 hkey with rfl | hkey
    · exact ⟨s, segments, rfl, hfind, fun s' hs' => .single hs'⟩
    · obtain ⟨s₀, segments₀, hs₀, hfind₀, hreach⟩ := hfollows key hkey
      exact ⟨s₀, segments₀, hs₀, hfind₀,
        fun s' hs' => (hreach s (uses_path.2 ⟨hother, hfind⟩)).tail hs'⟩

/-- A constant that is met while it is followed refers to itself. -/
theorem isCyclic_of_followed (h : t.IsPlain) {state : List String × Source.Expr}
    (hfollows : t.Follows state) {s : Symbol} (hs : t.Uses state.2 s) (hfollowed : s.key ∈ state.1) :
    t.IsCyclic s := by
  obtain ⟨s₀, segments₀, hkey, hfind₀, hreach⟩ := hfollows s.key hfollowed
  obtain ⟨segments, horigin, hother, hfind⟩ := hs
  obtain rfl := h.eq_of_key hfind hfind₀ hkey
  exact hreach s₀ ⟨segments, horigin, hother, hfind⟩

/-! ## Folding -/

/-- Folding finds what the rules give, also while constants are followed on the way there. -/
theorem Derives.value (hplain : t.IsPlain) {e : Source.Expr} {c : Constant} (h : t.Derives e c)
    {followed : List String} (hfollows : t.Follows (followed, e)) :
    t.valueFollowing? followed e = some c := by
  induction h generalizing followed with
  | text | float | bool => rfl
  | int p hn => exact if_pos hn
  | @negatedInt e n p _ ih =>
    show (t.valueFollowing? followed e).bind Constant.negated? = _
    rw [ih hfollows]
    rfl
  | @negatedFloat e x p _ ih =>
    show (t.valueFollowing? followed e).bind Constant.negated? = _
    rw [ih hfollows]
    rfl
  | reference p _ ih => exact ih hfollows
  | symbol p hpath hname htokens =>
    simp only [valueFollowing?, Constant.ofExpr?, if_pos hpath,
      Constant.symbolicName?_eq_some_iff.2 ⟨hname, htokens⟩, Option.map_some]
  | columnType front type p =>
    rw [valueFollowing?_path, Constant.columnTypeOfPath?_append,
      ColumnType.ofVariantName?_eq_some_iff.2 ⟨rfl, rfl⟩]
    rfl
  | @unknownColumnType front d variant p hunknown =>
    have hnone : ColumnType.ofVariantName? d variant = none :=
      Option.eq_none_iff_forall_ne_some.2 fun type htype =>
        hunknown type (ColumnType.ofVariantName?_eq_some_iff.1 htype).1
          (ColumnType.ofVariantName?_eq_some_iff.1 htype).2
    rw [valueFollowing?_path, Constant.columnTypeOfPath?_append, hnone]
    rfl
  | @constant segments s c p hother hfind hvalue ih =>
    have huses : t.Uses (.path segments p) s := uses_path.2 ⟨hother, hfind⟩
    -- A constant met for the second time would be cyclic, but what is cyclic has no value by the rules.
    have hnew : s.key ∉ followed := fun hfollowed =>
      not_isCyclic_of_derives (.constant p hother hfind hvalue) huses .refl
        (isCyclic_of_followed hplain hfollows huses hfollowed)
    rw [valueFollowing?_path, Constant.columnTypeOfPath?_eq_none_iff.2 hother, hfind, Option.none_or,
      Option.bind_some, if_neg hnew]
    exact ih (follows_of_asks (.constant p hother hfind hnew) hfollows)

theorem fold?_eq_some_iff (h : t.IsPlain) {e : Source.Expr} {c : Constant} :
    t.fold? e = some c ↔ t.Derives e c :=
  ⟨Derives.of_ofExpr? (fun _ _ hvalue p => .of_valueOfPath? hvalue p) e c,
    fun hderives => hderives.value h fun _ hkey => absurd hkey List.not_mem_nil⟩

/-- Whole numbers keep away from the smallest one of 128 bits, so that changing their sign is safe. -/
theorem Derives.int_bounds {e : Source.Expr} {c : Constant} (h : t.Derives e c) {n : Int}
    (hn : c = .int n) : -2 ^ 127 < n ∧ n < 2 ^ 127 := by
  induction h generalizing n with
  | @int m p hm =>
    obtain rfl := Constant.int.inj hn
    omega
  | negatedInt p _ ih =>
    obtain rfl := Constant.int.inj hn
    have hinner := ih rfl
    omega
  | reference _ _ ih => exact ih hn
  | constant _ _ _ _ ih => exact ih hn
  | _ => cases hn

/-- Folding comes to an end with just the values that the rules give. The constants that are met while
they are followed are cyclic, and no expression whose value leads to a cyclic constant has one. -/
theorem folds_by_rules (t : SymbolTable) (h : t.IsPlain) :
    (WellFounded fun after before => t.Asks before after) ∧
    (∀ e, t.fold? e = t.valueFollowing? [] e) ∧
    (∀ followed segments p, t.valueFollowing? followed (.path segments p) =
      (Constant.columnTypeOfPath? segments).or ((t.find? segments).bind fun s =>
        if s.key ∈ followed then none else t.valueFollowing? (s.key :: followed) s.value)) ∧
    (∀ followed e p, t.valueFollowing? followed (.negation e p) =
        (t.valueFollowing? followed e).bind Constant.negated? ∧
      t.valueFollowing? followed (.reference e p) = t.valueFollowing? followed e) ∧
    (∀ e c, t.fold? e = some c ↔ t.Derives e c) ∧
    (∀ e s s', t.Uses e s → Relation.ReflTransGen t.Refers s s' → t.IsCyclic s' → t.fold? e = none) ∧
    (∀ e state s, Relation.ReflTransGen t.Asks ([], e) state → t.Uses state.2 s → s.key ∈ state.1 →
      t.IsCyclic s) ∧
    ∀ e n, t.fold? e = some (.int n) → -2 ^ 127 < n ∧ n < 2 ^ 127 := by
  refine ⟨t.asks_wellFounded, fun _ => rfl, valueFollowing?_path, fun _ _ _ => ⟨rfl, rfl⟩,
    fun _ _ => fold?_eq_some_iff h, fun e s s' hs hreach hcycle => ?_, fun e state s hreach => ?_,
    fun e n hn => ?_⟩
  · refine Option.eq_none_iff_forall_ne_some.2 fun c hc => ?_
    exact not_isCyclic_of_derives ((fold?_eq_some_iff h).1 hc) hs hreach hcycle
  · refine isCyclic_of_followed h ?_
    induction hreach with
    | refl => exact fun _ hkey => absurd hkey List.not_mem_nil
    | tail _ hstep ih => exact follows_of_asks hstep ih
  · exact ((fold?_eq_some_iff h).1 hn).int_bounds rfl

end SymbolTable

/-- Constants of several modules, among them two of one name, and two that refer to each other. -/
def lengths : SymbolTable where
  symbols := [
    ⟨["models"], "NAME_LEN", .literal (.int 100) default⟩,
    ⟨["models"], "OFFSET", .negation (.path ["crate", "a", "STEP"] default) default⟩,
    ⟨["a"], "STEP", .reference (.path ["NAME_LEN"] default) default⟩,
    ⟨["b"], "STEP", .literal (.int 2) default⟩,
    ⟨[], "FIRST", .path ["SECOND"] default⟩,
    ⟨[], "SECOND", .path ["self", "FIRST"] default⟩]

/-- The offset is found by way of two other constants; the constants that refer to each other have no
value. -/
theorem folds_by_rules_lengths : lengths.IsPlain ∧
    lengths.fold? (.path ["OFFSET"] default) = some (.int (-100)) ∧
    lengths.fold? (.path ["FIRST"] default) = none := by
  have hplain : lengths.IsPlain := by
    intro s hs
    simp only [lengths, List.mem_cons, List.not_mem_nil, or_false] at hs
    rcases hs with rfl | rfl | rfl | rfl | rfl | rfl <;> decide
  have hother (names : List String) (h : Constant.columnTypeOfPath? names = none) :
      ¬IsColumnTypePath names := Constant.columnTypeOfPath?_eq_none_iff.1 h
  obtain ⟨-, -, -, -, hrules, hcyclic, -⟩ := SymbolTable.folds_by_rules lengths hplain
  refine ⟨hplain, (hrules _ _).2 ?_, hcyclic _ _ _ (SymbolTable.uses_path.2 ⟨?_, rfl⟩) .refl ?_⟩
  · exact .constant _ (hother _ rfl) rfl (.negatedInt _ (.constant _ (hother _ rfl) rfl
      (.reference _ (.constant _ (hother _ rfl) rfl (.int _ (by decide))))))
  · exact hother _ rfl
  · exact .tail (.single (SymbolTable.uses_path.2 ⟨hother _ rfl, rfl⟩))
      (SymbolTable.uses_path.2 ⟨hother _ rfl, rfl⟩)

end Tablewright
