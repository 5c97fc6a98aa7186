import Tablewright.Proofs.DiscoveredModels
import Tablewright.Proofs.FoldedConstants

/-!
# Paths from the root

What a path from the root of the crate means. The words for the root and for modules nearby do not count: a
path stands for each struct or constant of its name whose module ends in the modules of the path, and for
each enum of its name. Which one of several it is depends on where the path stands and on the order in which
declarations are found; a constant that is not the only one is no constant.

## Key results

- `structPlace?_rooted_near`, `structPlace?_rooted_far`: which struct a path from the root means
- `ofType_eq_enum_iff`: the first enum of a name is the only one that its paths mean
- `fold?_rooted`: a constant is meant where no other one can be
-/

namespace Tablewright

/-- A path from the root of the crate, as it is written. -/
def rootedSegments (module : List String) (name : String) : List String :=
  "crate" :: (module ++ [name])

/-- Names of modules, none of them a word for the root or for a module nearby. -/
def IsModulePath (module : List String) : Prop :=
  ∀ s ∈ module, s ∉ relativeSegments

section

variable {module : List String} (hmodule : IsModulePath module) (name : String)

include hmodule in
/-- The root of the crate does not count. -/
theorem namedSegments_rootedSegments : namedSegments (rootedSegments module name).dropLast = module := by
  have hdrop : (rootedSegments module name).dropLast = "crate" :: module := by
    rw [rootedSegments, ← List.cons_append, List.dropLast_concat]
  rw [hdrop, namedSegments, List.filter_cons, if_neg (by decide)]
  exact List.filter_eq_self.2 fun s hs => by simpa using hmodule s hs

theorem getLast?_rootedSegments : (rootedSegments module name).getLast? = some name := by
  rw [rootedSegments, ← List.cons_append, List.getLast?_concat]

end

/-! ## Structs -/

namespace SourceSet

variable {s : SourceSet}

/-- A struct of a name in a module that ends in given ones, and its place. -/
def IsCandidate (s : SourceSet) (module : List String) (name : String) (place : Nat)
    (located : Located Source.StructItem) : Prop :=
  s.structs[place]? = some located ∧ located.item.name = name ∧ module <:+ located.module

theorem isNamed_rootedSegments {module : List String} (hmodule : IsModulePath module) (name : String)
    (located : Located Source.StructItem) : located.isNamed (rootedSegments module name) = true ↔
      located.item.name = name ∧ module <:+ located.module := by
  rw [Located.isNamed, namedSegments_rootedSegments hmodule, getLast?_rootedSegments, Bool.and_eq_true,
    decide_eq_true_iff, Option.some.injEq, eq_comm, List.isSuffixOf_iff_suffix]

/-- The first struct with a property. -/
theorem find?_structs_eq_some_iff {p : Located Source.StructItem → Bool} {i : Nat} :
    (List.range s.structs.length).find? (fun k => s.structs[k]?.any p) = some i ↔
      (∃ a, s.structs[i]? = some a ∧ p a = true) ∧
        ∀ j b, s.structs[j]? = some b → p b = true → i ≤ j := by
  rw [List.find?_range_eq_some]
  constructor
  · rintro ⟨hi, -, hfirst⟩
    refine ⟨(Option.any_eq_true _ _).1 hi, fun j b hb hp => Nat.le_of_not_lt fun hj => ?_⟩
    have hj := hfirst j hj
    simp [hb, hp] at hj
  · rintro ⟨⟨a, ha, hp⟩, hfirst⟩
    refine ⟨by simp [ha, hp], List.mem_range.2 (List.getElem?_eq_some_iff.1 ha).1, fun j hj => ?_⟩
    rw [Bool.not_eq_true', Option.any_eq_false]
    exact fun b hb => Bool.eq_false_iff.2 fun hp => absurd (hfirst j b hb hp) (Nat.not_le.2 hj)

/-- The struct that a path means is the first one nearby, or else the first one if there is none nearby. -/
theorem structPlace?_eq_some_iff {segments near : List String} {i : Nat} :
    s.structPlace? segments near = some i ↔
      ∃ a, s.structs[i]? = some a ∧ a.isNamed segments = true ∧
        ((a.module = near ∧ ∀ j b, s.structs[j]? = some b → b.isNamed segments = true → b.module = near →
            i ≤ j) ∨
          ∀ j b, s.structs[j]? = some b → b.isNamed segments = true → b.module ≠ near ∧ i ≤ j) := by
  have hnear : firstWhere s.structs ((List.range s.structs.length).filter fun i =>
      s.structs[i]?.any (·.isNamed segments)) (·.module == near) =
      (List.range s.structs.length).find? fun k => s.structs[k]?.any fun x =>
        x.isNamed segments && x.module == near := by
    rw [firstWhere, List.find?_filter]
    congr 1
    funext k
    rw [Bool.eq_iff_iff]
    cases s.structs[k]? <;> simp
  have hplace : s.structPlace? segments near = ((List.range s.structs.length).find? fun k =>
      s.structs[k]?.any fun x => x.isNamed segments && x.module == near).or
      ((List.range s.structs.length).find? fun k => s.structs[k]?.any (·.isNamed segments)) := by
    rw [structPlace?, hnear, List.head?_filter]
    cases (List.range s.structs.length).find? fun k => s.structs[k]?.any fun x =>
      x.isNamed segments && x.module == near <;> rfl
  have hnone : ((List.range s.structs.length).find? fun k => s.structs[k]?.any fun x =>
      x.isNamed segments && x.module == near) = none ↔
        ∀ (j : Nat) (b : Located Source.StructItem), s.structs[j]? = some b → b.isNamed segments = true →
          b.module ≠ near := by
    rw [List.find?_eq_none]
    simp only [List.mem_range, Bool.not_eq_true, Option.any_eq_false, Bool.and_eq_false_iff]
    constructor
    · intro h j b hb hnamed hmodule
      simpa [hnamed, hmodule] using h j (List.getElem?_eq_some_iff.1 hb).1 b hb
    · intro h j _ b hb
      by_cases hnamed : b.isNamed segments = true
      · exact .inr (beq_false_of_ne (h j b hb hnamed))
      · exact .inl (Bool.eq_false_iff.2 hnamed)
  rw [hplace, Option.or_eq_some_iff, hnone, find?_structs_eq_some_iff, find?_structs_eq_some_iff]
  simp only [Bool.and_eq_true, beq_iff_eq]
  constructor
  · rintro (⟨⟨a, ha, hnamed, hmodule⟩, hfirst⟩ | ⟨hfar, ⟨a, ha, hnamed⟩, hfirst⟩)
    · exact ⟨a, ha, hnamed, .inl ⟨hmodule, fun j b hb hb' hb'' => hfirst j b hb ⟨hb', hb''⟩⟩⟩
    · exact ⟨a, ha, hnamed, .inr fun j b hb hb' => ⟨hfar j b hb hb', hfirst j b hb hb'⟩⟩
  · rintro ⟨a, ha, hnamed, ⟨hmodule, hfirst⟩ | hfirst⟩
    · exact .inl ⟨⟨a, ha, hnamed, hmodule⟩, fun j b hb hb' => hfirst j b hb hb'.1 hb'.2⟩
    · exact .inr ⟨fun j b hb hb' => (hfirst j b hb hb').1, ⟨a, ha, hnamed⟩,
        fun j b hb hb' => (hfirst j b hb hb').2⟩

section

variable {module near : List String} (hmodule : IsModulePath module) {name : String} {i : Nat}
  {located : Located Source.StructItem} (hlocated : s.structs[i]? = some located)
  (hname : located.item.name = name) (hin : located.module = module)

include hmodule hlocated hname hin

/-- From its own module, a struct is meant just if it is the first of its name there. -/
theorem structPlace?_rooted_near :
    s.structPlace? (rootedSegments module name) module = some i ↔
      ∀ j other, s.structs[j]? = some other → other.item.name = name → other.module = module → i ≤ j := by
  simp only [structPlace?_eq_some_iff, isNamed_rootedSegments hmodule]
  constructor
  · rintro ⟨a, ha, -, ⟨-, hfirst⟩ | hfirst⟩ j other hother hname' hin'
    · exact hfirst j other hother ⟨hname', hin' ▸ List.suffix_refl _⟩ hin'
    · exact absurd hin (hfirst i located hlocated ⟨hname, hin ▸ List.suffix_refl _⟩).1
  · intro h
    exact ⟨located, hlocated, ⟨hname, hin ▸ List.suffix_refl _⟩,
      .inl ⟨hin, fun j other hother hnamed hin' => h j other hother hnamed.1 hin'⟩⟩

/-- From another module, a struct is meant just if none that the path can mean is nearby or in front. -/
theorem structPlace?_rooted_far (hfar : near ≠ module) :
    s.structPlace? (rootedSegments module name) near = some i ↔
      ∀ j other, s.IsCandidate module name j other → other.module ≠ near ∧ i ≤ j := by
  simp only [structPlace?_eq_some_iff, isNamed_rootedSegments hmodule]
  constructor
  · rintro ⟨a, ha, -, ⟨hnear, -⟩ | hfirst⟩
    · obtain rfl := Option.some.inj (hlocated.symm.trans ha)
      exact absurd (hnear.symm.trans hin) hfar
    · exact fun j other hother => hfirst j other hother.1 hother.2
  · intro h
    exact ⟨located, hlocated, ⟨hname, hin ▸ List.suffix_refl _⟩,
      .inr fun j other hother hnamed => h j other ⟨hother, hnamed⟩⟩

end

end SourceSet

/-! ## Enums -/

namespace Meaning

/-- The names of types that are no enums, whatever the sources declare. -/
def builtInNames : List String :=
  IntWidth.all.map (·.name) ++ named.map Prod.fst ++ ["Vec", "DateTime"] ++ wideIntegers

/-- The last name of a path is what its type is told by. -/
theorem lastSegment?_of_names? {segments : List String} {name : String}
    (hname : segments.getLast? = some name) :
    ∀ {t : Source.TypeExpr}, t.names? = some segments → ∃ argument, lastSegment? t = some (name, argument)
  | .path _ qualified names arguments, h => by
    cases qualified with
    | true => cases h
    | false =>
      obtain rfl : names = segments := Option.some.inj h
      simp [lastSegment?, hname]
  | .paren _ inner, h => lastSegment?_of_names? hname (t := inner) h
  | .other _, h => by cases h

/-- A name stands for the first enum of that name. -/
theorem ofEnum?_eq (enums : List EnumModel) (name : String) :
    ofEnum? enums name = (enums.find? (·.name == name)).bind fun e => ofEnum? [e] e.name := by
  rw [ofEnum?]
  cases enums.find? (·.name == name) with
  | none => rfl
  | some e => simp [ofEnum?]

theorem notMem_builtInNames_iff {name : String} : name ∉ builtInNames ↔
    IntWidth.ofName? name = none ∧ named.lookup name = none ∧ name ≠ "Vec" ∧ name ≠ "DateTime" ∧
      name ∉ wideIntegers := by
  have hint : IntWidth.ofName? name = none ↔ name ∉ IntWidth.all.map (·.name) := by
    simp [IntWidth.ofName?, List.find?_eq_none]
  have hnamed : named.lookup name = none ↔ name ∉ named.map Prod.fst := by
    rw [List.lookup_eq_none_iff]
    simp only [List.mem_map, not_exists, not_and, bne_iff_ne]
    exact forall₂_congr fun x _ => ne_comm
  rw [hint, hnamed, builtInNames]
  simp only [List.mem_append, List.mem_cons, List.not_mem_nil, or_false, not_or]
  tauto

/-- A type is that of an enum just if its last name is not built in and stands for the enum. -/
theorem ofType_eq_enum_iff {enums : List EnumModel} {t : Source.TypeExpr} {name : String}
    {argument : Option Source.TypeExpr} (ht : lastSegment? t = some (name, argument)) {e : EnumRef} :
    ofType enums t = .ok (enum e) ↔ name ∉ builtInNames ∧ ofEnum? enums name = some (enum e) := by
  rw [notMem_builtInNames_iff, ofType, ht]
  simp only
  split
  next w m hw => simp [hw]
  next m hw hm =>
    -- The meanings of the names of their own are no enums.
    have hother : m ≠ enum e := by
      obtain ⟨front, rest, hsplit, -⟩ := List.lookup_eq_some_iff.1 hm
      have hmem : (name, m) ∈ named := hsplit ▸ by simp
      rintro rfl
      simp [named] at hmem
    simp [hm, hother]
  next hw hm =>
    simp only [hw, hm, true_and]
    split
    · split <;> simp_all
    · split
      · split <;> simp_all
      · split
        · simp_all
        · split <;> simp_all

end Meaning

/-! ## Constants -/

namespace SymbolTable

variable {t : SymbolTable}

/-- Having a value is a property of expressions while constants are followed: it can be shown along the way
that folding takes. -/
theorem value_induction {P : List String → Source.Expr → Constant → Prop}
    (hother : ∀ followed e v, e.origin? = none → t.valueFollowing? followed e = some v → P followed e v)
    (hnegation : ∀ followed e p v v', t.valueFollowing? followed e = some v → P followed e v →
      Constant.negated? v = some v' → P followed (.negation e p) v')
    (hreference : ∀ followed e p v, P followed e v → P followed (.reference e p) v)
    (htype : ∀ followed segments p v, Constant.columnTypeOfPath? segments = some v →
      P followed (.path segments p) v)
    (hconstant : ∀ followed segments p s v, Constant.columnTypeOfPath? segments = none →
      t.find? segments = some s → s.key ∉ followed → P (s.key :: followed) s.value v →
      P followed (.path segments p) v)
    {followed : List String} {e : Source.Expr} {v : Constant}
    (h : t.valueFollowing? followed e = some v) : P followed e v := by
  suffices hall : ∀ state : List String × Source.Expr, ∀ v, t.valueFollowing? state.1 state.2 = some v →
      P state.1 state.2 v from hall (followed, e) v h
  intro state
  induction state using t.asks_wellFounded.induction with
  | _ state ih =>
    obtain ⟨followed, e⟩ := state
    intro v h
    cases e with
    | negation e p =>
      obtain ⟨w, hw, hv⟩ := Option.bind_eq_some_iff.1 h
      exact hnegation _ _ _ w v hw (ih _ (.negation followed e p) w hw) hv
    | reference e p => exact hreference _ _ _ _ (ih _ (.reference followed e p) v h)
    | path segments p =>
      rw [valueFollowing?_path] at h
      cases htypes : Constant.columnTypeOfPath? segments with
      | some c =>
        obtain rfl : c = v := by simpa [htypes] using h
        exact htype _ _ _ _ htypes
      | none =>
        rw [htypes, Option.none_or] at h
        obtain ⟨s, hs, hvalue⟩ := Option.bind_eq_some_iff.1 h
        split at hvalue
        · cases hvalue
        next hnew =>
          exact hconstant _ _ _ s v htypes hs hnew
            (ih _ (.constant p (Constant.columnTypeOfPath?_eq_none_iff.1 htypes) hs hnew) v hvalue)
    | _ => exact hother _ _ _ rfl h

/-- What is not taken from a constant does not depend on those that are followed. -/
theorem valueFollowing?_of_origin? {e : Source.Expr} (h : e.origin? = none)
    (followed followed' : List String) : t.valueFollowing? followed e = t.valueFollowing? followed' e := by
  match e, h with
  | .negation e _, h =>
    exact congrArg (·.bind Constant.negated?) (valueFollowing?_of_origin? (e := e) h _ _)
  | .reference e _, h => exact valueFollowing?_of_origin? (e := e) h _ _
  | .literal .., _ | .field .., _ | .methodCall .., _ | .call .., _ | .closure .., _ | .macroCall .., _
  | .block .., _ | .other .., _ => rfl

/-- Following fewer constants leads to the same value. -/
theorem valueFollowing?_mono {followed followed' : List String} {e : Source.Expr} {v : Constant}
    (hsub : ∀ key ∈ followed', key ∈ followed) (h : t.valueFollowing? followed e = some v) :
    t.valueFollowing? followed' e = some v := by
  refine value_induction (P := fun followed e v => ∀ followed', (∀ key ∈ followed', key ∈ followed) →
    t.valueFollowing? followed' e = some v) ?_ ?_ ?_ ?_ ?_ h followed' hsub
  · intro followed e v horigin h followed' _
    rwa [valueFollowing?_of_origin? horigin followed' followed]
  · intro followed e p v v' _ ih hv followed' hsub
    exact Option.bind_eq_some_iff.2 ⟨v, ih followed' hsub, hv⟩
  · exact fun followed e p v ih followed' hsub => ih followed' hsub
  · intro followed segments p v htype followed' _
    rw [valueFollowing?_path, htype, Option.some_or]
  · intro followed segments p s v htype hfind hnew ih followed' hsub
    rw [valueFollowing?_path, htype, hfind, Option.none_or, Option.bind_some,
      if_neg fun hkey => hnew (hsub _ hkey)]
    refine ih _ fun key hkey => ?_
    rcases List.mem_cons.1 hkey with rfl | hkey
    · exact List.mem_cons_self
    · exact List.mem_cons_of_mem _ (hsub key hkey)

/-- With one more constant followed the value is the same, unless the constant itself has one while it is
followed. -/
theorem valueFollowing?_cons {c : Symbol} (hc : ∀ s ∈ t.symbols, s.key = c.key → s = c)
    {followed : List String} {e : Source.Expr} {v : Constant} (h : t.valueFollowing? followed e = some v) :
    t.valueFollowing? (c.key :: followed) e = some v ∨
      ∃ followed' w, t.valueFollowing? (c.key :: followed') c.value = some w := by
  refine value_induction (P := fun followed e v => t.valueFollowing? (c.key :: followed) e = some v ∨
    ∃ followed' w, t.valueFollowing? (c.key :: followed') c.value = some w) ?_ ?_ ?_ ?_ ?_ h
  · intro followed e v horigin h
    exact .inl (by rwa [valueFollowing?_of_origin? horigin _ followed])
  · intro followed e p v v' _ ih hv
    exact ih.imp_left fun h => Option.bind_eq_some_iff.2 ⟨v, h, hv⟩
  · exact fun followed e p v ih => ih
  · intro followed segments p v htype
    exact .inl (by rw [valueFollowing?_path, htype, Option.some_or])
  · intro followed segments p s v htype hfind hnew ih
    refine ih.elim (fun hvalue => ?_) .inr
    by_cases hkey : s.key = c.key
    · -- The constant is met on the way.
      obtain rfl := hc s (unique_of_find? hfind).1 hkey
      exact .inr ⟨_, v, hvalue⟩
    · refine .inl ?_
      rw [valueFollowing?_path, htype, hfind, Option.none_or, Option.bind_some,
        if_neg (by simp [hkey, hnew])]
      exact valueFollowing?_mono (by simp [or_left_comm]) hvalue

/-- A constant that is the only one of its full name has the value of its initializer. -/
theorem valueFollowing?_self {c : Symbol} (hc : ∀ s ∈ t.symbols, s.key = c.key → s = c) :
    t.valueFollowing? [c.key] c.value = t.fold? c.value := by
  have hfewer {v : Constant} (h : t.valueFollowing? [c.key] c.value = some v) :
      t.fold? c.value = some v := valueFollowing?_mono (by simp) h
  refine Option.ext fun v => ⟨hfewer, fun h => ?_⟩
  rcases valueFollowing?_cons hc h with hvalue | ⟨followed, w, hw⟩
  · exact hvalue
  · -- The initializer is met on the way to its own value, and has one there.
    have hself : t.valueFollowing? [c.key] c.value = some w := valueFollowing?_mono (by simp) hw
    rwa [← Option.some.inj ((hfewer hself).symm.trans h)]

section

variable {c : Symbol} {module : List String} {name : String} (hmodule : IsModulePath module)
  (hmem : c ∈ t.symbols) (hname : c.name = name) (hin : c.module = module)

include hmodule hmem hname hin

/-- A path from the root names a constant just if it is the only one that the path can mean. -/
theorem find?_rooted {s : Symbol} : t.find? (rootedSegments module name) = some s ↔
    t.symbols.filter (fun s => s.name == name && module.isSuffixOf s.module) = [s] := by
  simp only [find?_eq_some_iff, getLast?_rootedSegments, namedSegments_rootedSegments hmodule,
    Option.some.injEq, exists_eq_left', List.filter_filter]
  have hcomm : (fun s : Symbol => module.isSuffixOf s.module && s.name == name) =
      fun s => s.name == name && module.isSuffixOf s.module := by
    funext s
    exact Bool.and_comm _ _
  rw [hcomm]
  constructor
  · rintro (honly | ⟨-, honly⟩)
    · -- The constant itself is the only one of the name.
      obtain rfl : c = s := by
        have hc : c ∈ t.symbols.filter (·.name == name) := List.mem_filter.2 ⟨hmem, by simpa using hname⟩
        rw [honly] at hc
        exact List.mem_singleton.1 hc
      rw [← hcomm, ← List.filter_filter, honly]
      simp [hin]
    · exact honly
  · intro honly
    cases module with
    | nil =>
      left
      rw [← honly]
      simp
    | cons => exact .inr ⟨List.cons_ne_nil _ _, honly⟩

/-- A path from the root has the value of a constant just if it can mean no other one. -/
theorem fold?_rooted (honly : ∀ s ∈ t.symbols, s.key = c.key → s = c)
    (htype : ¬IsColumnTypePath (rootedSegments module name)) (p : Source.Position) :
    (t.symbols.filter (fun s => s.name == name && module.isSuffixOf s.module) = [c] →
      t.fold? (.path (rootedSegments module name) p) = t.fold? c.value) ∧
    (t.symbols.filter (fun s => s.name == name && module.isSuffixOf s.module) ≠ [c] →
      t.fold? (.path (rootedSegments module name) p) = none) := by
  have hpath : t.fold? (.path (rootedSegments module name) p) =
      (t.find? (rootedSegments module name)).bind fun s => t.valueFollowing? [s.key] s.value := by
    refine (valueFollowing?_path [] _ p).trans ?_
    rw [Constant.columnTypeOfPath?_eq_none_iff.2 htype, Option.none_or]
    simp
  constructor
  · intro hc
    rw [hpath, (find?_rooted hmodule hmem hname hin).2 hc, Option.bind_some, valueFollowing?_self honly]
  · intro hc
    rw [hpath, Option.bind_eq_none_iff]
    intro s hs
    -- Any constant that is the only one is this one.
    have hs' := (find?_rooted hmodule hmem hname hin).1 hs
    have hcs : c ∈ t.symbols.filter fun s => s.name == name && module.isSuffixOf s.module :=
      List.mem_filter.2 ⟨hmem, by simp [hname, hin]⟩
    rw [hs', List.mem_singleton] at hcs
    exact absurd (hcs ▸ hs') hc

end

end SymbolTable

/-! ## Paths in a source set -/

namespace SourceSet

/-- An implementation of a capability or of a profile for the type that a path names, and the place of the
struct that it counts for. -/
def IsAbout (s : SourceSet) (impl : Located Source.ImplItem) (segments : List String) (place : Option Nat) :
    Prop :=
  (∃ c, s.claim? impl = some c ∧ impl.item.type.names? = some segments ∧ c.place = place) ∨
    ∃ c t, ProfileClaim.of? impl = some c ∧ c.arguments = [t] ∧ t.names? = some segments ∧
      c.place? s = place

/-- The struct that an implementation counts for is the one that its path means where it stands. -/
theorem IsAbout.place_eq {s : SourceSet} {impl : Located Source.ImplItem} {segments : List String}
    {place : Option Nat} (h : s.IsAbout impl segments place) :
    place = s.structPlace? segments impl.module := by
  rcases h with ⟨c, hc, hnames, rfl⟩ | ⟨c, t, hc, harguments, hnames, rfl⟩
  · simp only [claim?, Option.bind_eq_bind, Option.bind_eq_some_iff, Option.pure_def,
      Option.some.injEq] at hc
    obtain ⟨_, -, _, -, rfl⟩ := hc
    simp [hnames]
  · simp only [ProfileClaim.of?, Option.bind_eq_bind, Option.bind_eq_some_iff, Option.pure_def,
      Option.some.injEq] at hc
    obtain ⟨_, -, _, -, rfl⟩ := hc
    simp only at harguments
    simp [ProfileClaim.place?, harguments, hnames]

/-- What paths from the root mean, for each struct, enum and constant that is declared just where the path
says. An implementation in the module of the struct counts for the first one of the name there; one in
another module counts for the struct if none that the path could mean is nearby or found before. An enum is
meant if it is the first one of its name, which is not built in. A constant is meant if the path could mean
no other one. -/
theorem rooted_paths (s : SourceSet) {module : List String} (hmodule : IsModulePath module)
    (name : String) :
    (∀ impl place i located, s.IsAbout impl (rootedSegments module name) place →
      s.structs[i]? = some located → located.item.name = name → located.module = module →
      (impl.module = module → (place = some i ↔ ∀ j other, s.structs[j]? = some other →
        other.item.name = name → other.module = module → i ≤ j)) ∧
      (impl.module ≠ module → (place = some i ↔ ∀ j other, s.IsCandidate module name j other →
        other.module ≠ impl.module ∧ i ≤ j))) ∧
    (∀ e r t, e ∈ s.enums.map EnumModel.ofItem → e.name = name → e.module = module →
      Meaning.ofEnum? [e] name = some (.enum r) → t.names? = some (rootedSegments module name) →
      (Meaning.ofType (s.enums.map EnumModel.ofItem) t = .ok (.enum r) ↔
        name ∉ Meaning.builtInNames ∧ ∃ first, (s.enums.map EnumModel.ofItem).find? (·.name == name) =
          some first ∧ Meaning.ofEnum? [first] name = some (.enum r))) ∧
    ∀ c ∈ s.symbols.symbols, c.name = name → c.module = module →
      (∀ c' ∈ s.symbols.symbols, c'.key = c.key → c' = c) →
      ¬IsColumnTypePath (rootedSegments module name) → ∀ p,
      (s.symbols.symbols.filter (fun c' => c'.name == name && module.isSuffixOf c'.module) = [c] →
        s.symbols.fold? (.path (rootedSegments module name) p) = s.symbols.fold? c.value) ∧
      (s.symbols.symbols.filter (fun c' => c'.name == name && module.isSuffixOf c'.module) ≠ [c] →
        s.symbols.fold? (.path (rootedSegments module name) p) = none) := by
  refine ⟨fun impl place i located habout hlocated hname hin => ?_, fun e r t _ _ _ _ ht => ?_,
    fun c hmem hname hin honly htype p => SymbolTable.fold?_rooted hmodule hmem hname hin honly htype p⟩
  · rw [habout.place_eq]
    exact ⟨fun hnear => hnear ▸ structPlace?_rooted_near hmodule hlocated hname hin,
      structPlace?_rooted_far hmodule hlocated hname hin⟩
  · obtain ⟨argument, hlast⟩ := Meaning.lastSegment?_of_names? (getLast?_rootedSegments name) ht
    rw [Meaning.ofType_eq_enum_iff hlast, Meaning.ofEnum?_eq, Option.bind_eq_some_iff]
    refine and_congr_right fun _ => exists_congr fun first => and_congr_right fun hfirst => ?_
    have hfirst : first.name = name := by simpa using List.find?_some hfirst
    rw [hfirst]

/-! ## Paths that do not say what they mean -/

variable (s : SourceSet)

/-- An implementation for a path from the root counts for a struct that is declared just there. -/
def ImplsFollowPaths : Prop :=
  ∀ impl ∈ s.impls, ∀ place module name, IsModulePath module →
    s.IsAbout impl (rootedSegments module name) place →
    (∃ located ∈ s.structs, located.item.name = name ∧ located.module = module) →
    ∃ i located, place = some i ∧ s.structs[i]? = some located ∧ located.item.name = name ∧
      located.module = module

/-- A property whose type is a path from the root is of the enum that is declared just there. -/
def EnumsFollowPaths : Prop :=
  ∀ e ∈ s.enums.map EnumModel.ofItem, IsModulePath e.module → ∀ r,
    Meaning.ofEnum? [e] e.name = some (.enum r) → ∀ t, t.names? = some (rootedSegments e.module e.name) →
    Meaning.ofType (s.enums.map EnumModel.ofItem) t = .ok (.enum r)

/-- A path from the root has the value of the only constant that is declared just there. -/
def ConstantsFollowPaths : Prop :=
  ∀ c, s.symbols.symbols.filter (fun c' => c'.name == c.name && c'.module == c.module) = [c] →
    IsModulePath c.module → ¬IsColumnTypePath (rootedSegments c.module c.name) → ∀ p v,
    s.symbols.fold? c.value = some v → s.symbols.fold? (.path (rootedSegments c.module c.name) p) = some v

end SourceSet

/-- Declarations of one name in several modules, and an enum that is called like a type of its own. -/
def declaredTwice : SourceSet :=
  let item (module : List String) : Located Source.StructItem :=
    ⟨⟨"Item", default, true, false, some []⟩, module, "src/items.rs"⟩
  let enum (module : List String) (name : String) : Located Source.EnumItem :=
    ⟨⟨name, [], [⟨"Active", true⟩]⟩, module, "src/enums.rs"⟩
  { structs := [item [], item ["b"]]
    enums := [enum ["a"] "Status", enum ["b"] "Status", enum ["b"] "Uuid"]
    impls := [⟨⟨some ⟨"BulkModel", []⟩, .path "crate :: Item" false ["crate", "Item"] none, default, []⟩,
      ["b"], "src/b.rs"⟩]
    symbols := ⟨[⟨["b"], "LIMIT", .literal (.int 5) default⟩,
      ⟨["a", "b"], "LIMIT", .literal (.int 6) default⟩]⟩
    files := [] }

/-- The constant with the longer module is found by its path from the root. -/
theorem rooted_paths_declaredTwice : IsModulePath ["a", "b"] ∧
    declaredTwice.symbols.fold? (.path ["crate", "a", "b", "LIMIT"] default) = some (.int 6) := by
  have hmodule : IsModulePath ["a", "b"] := by simp [IsModulePath, relativeSegments]
  refine ⟨hmodule, ((SourceSet.rooted_paths declaredTwice hmodule "LIMIT").2.2
    ⟨["a", "b"], "LIMIT", .literal (.int 6) default⟩ (by simp [declaredTwice]) rfl rfl ?_
    (Constant.columnTypeOfPath?_eq_none_iff.1 rfl) default).1 rfl⟩
  intro c' hc' hkey
  simp only [declaredTwice, List.mem_cons, List.not_mem_nil, or_false] at hc'
  rcases hc' with rfl | rfl
  · exact absurd hkey (by decide)
  · rfl

/-- An implementation in another module, an enum of a name that another one has or that is built in, and a
constant whose module is the end of another one's show that paths from the root do not say what they mean. -/
theorem declaredTwice_not_followed : ¬declaredTwice.ImplsFollowPaths ∧
    ¬declaredTwice.EnumsFollowPaths ∧
    ¬{ declaredTwice with enums := declaredTwice.enums.drop 2 }.EnumsFollowPaths ∧
    ¬declaredTwice.ConstantsFollowPaths := by
  refine ⟨fun h => ?_, fun h => ?_, fun h => ?_, fun h => ?_⟩
  · obtain ⟨i, located, hi, hlocated, -, hmodule⟩ := h _ (List.mem_singleton.2 rfl) (some 1) [] "Item"
      (by simp [IsModulePath]) (.inl ⟨_, rfl, rfl, rfl⟩) ⟨_, List.mem_cons_self, rfl, rfl⟩
    obtain rfl : 1 = i := Option.some.inj hi
    obtain rfl := Option.some.inj hlocated
    cases hmodule
  · have hstatus := h ⟨"Status", ["b"], none, true, ["Active"]⟩ (by simp [declaredTwice, EnumModel.ofItem])
      (by simp [IsModulePath, relativeSegments]) ⟨"Status", "crate::b::Status", .i32, ["Active"]⟩ rfl
      (.path "crate :: b :: Status" false ["crate", "b", "Status"] none) rfl
    exact absurd (Meaning.enum.inj (Except.ok.inj hstatus)) (by decide)
  · have huuid := h ⟨"Uuid", ["b"], none, true, ["Active"]⟩ (by simp [declaredTwice, EnumModel.ofItem])
      (by simp [IsModulePath, relativeSegments]) ⟨"Uuid", "crate::b::Uuid", .i32, ["Active"]⟩ rfl
      (.path "crate :: b :: Uuid" false ["crate", "b", "Uuid"] none) rfl
    cases huuid
  · have hlimit := h ⟨["b"], "LIMIT", .literal (.int 5) default⟩ rfl
      (by simp [IsModulePath, relativeSegments]) (Constant.columnTypeOfPath?_eq_none_iff.1 rfl) default
      (.int 5) rfl
    cases hlimit

end Tablewright
