import Mathlib.Data.List.Perm.Basic
import Tablewright.Model.Discovery

/-!
# Discovered models

What the declarations of a crate ask for, told for each struct by itself: the strongest capability that
an implementation asks for, and the dialects that it is configured in. Discovery finds these models and
profiles, in another order, and complains where it cannot.

## Key results

- `structPlace?_minimal`: of two structs of one module and name only the first is ever meant
- `models_perm`: discovery finds the models of the structs that can be one
- `dialects_profilesAt`: the profiles of a model are for the dialects that its struct is configured in
-/

namespace Tablewright

/-! ## Capabilities -/

/-- The strongest of capabilities is the first one met on the way down. -/
theorem Capability.strongest?_eq_find? (cs : List Capability) :
    Capability.strongest? cs = [.bulk, .domain, .result].find? cs.contains := by
  cases cs with
  | nil => rfl
  | cons c cs =>
    -- The strongest one so far is at the head, where the next one is compared with it.
    induction cs generalizing c with
    | nil => cases c <;> rfl
    | cons c' cs ih =>
      refine (ih (c.max c')).trans ?_
      cases c <;> cases c' <;>
        simp [Capability.max, Capability.rank, List.find?_cons]

namespace SourceSet

variable (s : SourceSet)

/-- An implementation asks for a capability of the struct at a place. -/
def asksFor (place : Nat) (capability : Capability) : Bool :=
  s.impls.any fun i => (s.claim? i).any fun claim =>
    claim.place = some place && claim.capability = capability

/-- The strongest capability that is asked for of the struct at a place. -/
def capabilityAt? (place : Nat) : Option Capability :=
  [.bulk, .domain, .result].find? (s.asksFor place)

/-- A profile configures the struct at a place in a dialect. -/
def isProfiled (place : Nat) (d : Dialect) : Bool :=
  s.impls.any fun i => (ProfileClaim.of? i).any fun claim =>
    claim.place? s = some place && claim.dialect = d

/-- The dialects that the struct at a place is to have tables in: those of its profiles or, where it has
none, those of the policy. -/
def dialectsAt (policy : Policy) (place : Nat) : List Dialect :=
  match Dialect.all.filter (s.isProfiled place) with
  | [] => policy.defaultDialects
  | claimed => claimed

variable {s}

theorem strongest?_claims (place : Nat) :
    Capability.strongest? (((s.impls.filterMap s.claim?).filter fun c => c.place = some place).map
      (·.capability)) = s.capabilityAt? place := by
  rw [Capability.strongest?_eq_find?, capabilityAt?]
  congr 1
  funext c
  rw [Bool.eq_iff_iff, List.contains_iff_mem, asksFor, List.any_eq_true]
  simp only [List.mem_map, List.mem_filter, List.mem_filterMap, decide_eq_true_eq, Option.any_eq_true,
    Bool.and_eq_true]
  constructor
  · rintro ⟨claim, ⟨⟨i, hi, hclaim⟩, hplace⟩, hc⟩
    exact ⟨i, hi, claim, hclaim, hplace, hc⟩
  · rintro ⟨i, hi, claim, hclaim, hplace, hc⟩
    exact ⟨claim, ⟨⟨i, hi, hclaim⟩, hplace⟩, hc⟩

/-! ## Places -/

/-- The first place with a property is not behind another place with the same declaration, as far as the
property goes. -/
theorem place_le_of_find? {n i j : Nat} {p : Located Source.StructItem → Bool}
    {a b : Located Source.StructItem}
    (h : (List.range n).find? (fun k => s.structs[k]?.any p) = some i) (ha : s.structs[i]? = some a)
    (hb : s.structs[j]? = some b) (hsame : p b = p a) : i ≤ j := by
  obtain ⟨hi, -, hfirst⟩ := List.find?_range_eq_some.1 h
  refine Nat.le_of_not_lt fun hj => ?_
  have hbefore := hfirst j hj
  rw [ha, Option.any_some] at hi
  rw [hb, Option.any_some, hsame, hi] at hbefore
  cases hbefore

/-- A path never means a struct behind another one of the same module and name. -/
theorem structPlace?_minimal {segments near : List String} {i j : Nat} {a b : Located Source.StructItem}
    (h : s.structPlace? segments near = some i) (ha : s.structs[i]? = some a)
    (hb : s.structs[j]? = some b) (hmodule : b.module = a.module) (hname : b.item.name = a.item.name) :
    i ≤ j := by
  have hnamed : b.isNamed segments = a.isNamed segments := by
    rw [Located.isNamed, Located.isNamed, hmodule, hname]
  simp only [structPlace?, firstWhere, List.find?_filter, List.head?_filter] at h
  split at h
  -- A struct of the module nearby comes before those of other modules.
  next i' hnear =>
    obtain rfl := Option.some.inj h
    have hfound : (List.range s.structs.length).find? (fun k => s.structs[k]?.any fun x =>
        x.isNamed segments && x.module == near) = some i' := by
      rw [← hnear]
      congr 1
      funext k
      rw [Bool.decide_and, Bool.decide_eq_true, Bool.decide_eq_true]
      cases s.structs[k]? <;> rfl
    exact place_le_of_find? hfound ha hb (by rw [hnamed, hmodule])
  next => exact place_le_of_find? h ha hb hnamed

theorem place_of_asksFor {i : Nat} {c : Capability} (h : s.asksFor i c = true) :
    ∃ segments near, s.structPlace? segments near = some i := by
  obtain ⟨impl, -, h⟩ := List.any_eq_true.1 h
  obtain ⟨claim, hclaim, h⟩ := (Option.any_eq_true _ _).1 h
  simp only [Bool.and_eq_true, decide_eq_true_eq] at h
  simp only [claim?, Option.bind_eq_bind, Option.bind_eq_some_iff, Option.pure_def,
    Option.some.injEq] at hclaim
  obtain ⟨_, -, _, -, rfl⟩ := hclaim
  obtain ⟨segments, -, hplace⟩ := Option.bind_eq_some_iff.1 h.1
  exact ⟨segments, _, hplace⟩

/-- Nothing is asked for of two structs of the same module and name. -/
theorem place_unique {i j : Nat} {a b : Located Source.StructItem} (ha : s.structs[i]? = some a)
    (hb : s.structs[j]? = some b) (hi : s.capabilityAt? i ≠ none) (hj : s.capabilityAt? j ≠ none)
    (hmodule : a.module = b.module) (hname : a.item.name = b.item.name) : i = j := by
  have hplace {k : Nat} (hk : s.capabilityAt? k ≠ none) :
      ∃ segments near, s.structPlace? segments near = some k := by
    obtain ⟨c, hc⟩ := Option.ne_none_iff_exists'.1 hk
    exact place_of_asksFor (List.find?_some hc)
  obtain ⟨_, _, hi⟩ := hplace hi
  obtain ⟨_, _, hj⟩ := hplace hj
  exact Nat.le_antisymm (structPlace?_minimal hi ha hb hmodule.symm hname.symm)
    (structPlace?_minimal hj hb ha hmodule hname)

/-! ## Models -/

variable (s) in
/-- The model that the struct at a place is asked to be, or what keeps it from being one. -/
def modelAt? (place : Nat) : Option (Except Diagnostic Model) :=
  (s.capabilityAt? place).bind fun c => s.structs[place]?.map (Model.ofStruct · c)

variable (s) in
/-- The profiles of the model at a place. -/
def profilesAt (policy : Policy) (place : Nat) (m : Model) : List Profile :=
  (policy.complete m (s.claimedProfiles (s.impls.filterMap ProfileClaim.of?) place m)).1

variable (s) in
/-- The model at a place with its profiles, if there is one. -/
def discoveredAt? (policy : Policy) (place : Nat) : Option DiscoveredModel :=
  ((s.modelAt? place).bind Except.toOption).map fun m => ⟨m, s.profilesAt policy place m⟩

theorem modelsOf_eq : s.modelsOf (s.impls.filterMap s.claim?) =
    (List.range s.structs.length).filterMap fun i => (s.modelAt? i).map (i, ·) := by
  rw [modelsOf]
  refine List.filterMap_congr fun i _ => ?_
  rw [strongest?_claims, modelAt?]
  cases s.capabilityAt? i <;> cases s.structs[i]? <;> rfl

variable {policy : Policy}

/-- Discovery finds the models of the structs that can be one. -/
theorem models_perm : (s.discover policy).models.Perm
    ((List.range s.structs.length).filterMap (s.discoveredAt? policy)) := by
  have hmodels : (List.range s.structs.length).filterMap (s.discoveredAt? policy) =
      (((s.modelsOf (s.impls.filterMap s.claim?)).filterMap fun x =>
        x.2.toOption.map (x.1, ·)).map fun x => (x.2, policy.complete x.2
          (s.claimedProfiles (s.impls.filterMap ProfileClaim.of?) x.1 x.2))).map fun x =>
            (⟨x.1, x.2.1⟩ : DiscoveredModel) := by
    rw [modelsOf_eq, List.filterMap_filterMap, List.map_filterMap, List.map_filterMap]
    refine List.filterMap_congr fun i _ => ?_
    rw [discoveredAt?]
    rcases s.modelAt? i with _ | (_ | _) <;> rfl
  rw [hmodels]
  exact List.mergeSort_perm _ _

theorem mem_discovered_iff {m : DiscoveredModel} :
    m ∈ (s.discover policy).models ↔ ∃ i, s.discoveredAt? policy i = some m := by
  rw [models_perm.mem_iff, List.mem_filterMap]
  refine ⟨fun ⟨i, _, h⟩ => ⟨i, h⟩, fun ⟨i, h⟩ => ⟨i, ?_, h⟩⟩
  obtain ⟨_, h, -⟩ := Option.map_eq_some_iff.1 h
  obtain ⟨_, h, -⟩ := Option.bind_eq_some_iff.1 h
  obtain ⟨c, -, h⟩ := Option.bind_eq_some_iff.1 h
  obtain ⟨a, h, -⟩ := Option.map_eq_some_iff.1 h
  exact List.mem_range.2 (List.getElem?_eq_some_iff.1 h).1

theorem modelAt?_eq_some_iff {i : Nat} {r : Except Diagnostic Model} :
    s.modelAt? i = some r ↔ ∃ a c, s.structs[i]? = some a ∧ s.capabilityAt? i = some c ∧
      Model.ofStruct a c = r := by
  simp only [modelAt?, Option.bind_eq_some_iff, Option.map_eq_some_iff]
  constructor
  · rintro ⟨c, hc, a, ha, h⟩
    exact ⟨a, c, ha, hc, h⟩
  · rintro ⟨a, c, ha, hc, h⟩
    exact ⟨c, hc, a, ha, h⟩

/-- A model is made of the struct at its place. -/
theorem exists_struct_of_discoveredAt? {i : Nat} {m : DiscoveredModel}
    (h : s.discoveredAt? policy i = some m) :
    ∃ a c, s.structs[i]? = some a ∧ s.capabilityAt? i = some c ∧ Model.ofStruct a c = .ok m.model := by
  obtain ⟨model, hmodel, rfl⟩ := Option.map_eq_some_iff.1 h
  obtain ⟨r, hr, hok⟩ := Option.bind_eq_some_iff.1 hmodel
  obtain ⟨a, c, ha, hc, rfl⟩ := modelAt?_eq_some_iff.1 hr
  refine ⟨a, c, ha, hc, ?_⟩
  cases hresult : Model.ofStruct a c with
  | error e =>
    rw [hresult] at hok
    cases hok
  | ok model' =>
    rw [hresult] at hok
    exact congrArg _ (Option.some.inj hok)

theorem mem_modelsOf {i : Nat} {r : Except Diagnostic Model} (h : s.modelAt? i = some r) :
    (i, r) ∈ s.modelsOf (s.impls.filterMap s.claim?) := by
  obtain ⟨a, c, ha, -⟩ := modelAt?_eq_some_iff.1 h
  rw [modelsOf_eq]
  exact List.mem_filterMap.2 ⟨i, List.mem_range.2 (List.getElem?_eq_some_iff.1 ha).1, by rw [h]; rfl⟩

/-- What keeps a struct from being a model is told. -/
theorem rejected_mem_diagnostics {i : Nat} {e : Diagnostic} (h : s.modelAt? i = some (.error e)) :
    e ∈ (s.discover policy).diagnostics := by
  refine List.mem_append_left _ (List.mem_append_left _ (List.mem_append_right _ ?_))
  exact List.mem_filterMap.2 ⟨_, mem_modelsOf h, rfl⟩

/-- What is wrong with the profiles that a model has and has not is told. -/
theorem complete_subset_diagnostics {i : Nat} {m : Model} (h : s.modelAt? i = some (.ok m)) :
    (policy.complete m (s.claimedProfiles (s.impls.filterMap ProfileClaim.of?) i m)).2 ⊆
      (s.discover policy).diagnostics := by
  intro e he
  refine List.mem_append_right _ (List.mem_flatMap.2 ⟨_, List.mem_map.2 ⟨(i, m), ?_, rfl⟩, he⟩)
  exact List.mem_filterMap.2 ⟨_, mem_modelsOf h, rfl⟩

end SourceSet

/-- A struct that can be a model keeps its name, its module and its fields. -/
theorem Model.ofStruct_eq_ok {a : Located Source.StructItem} {c : Capability} {m : Model}
    (h : Model.ofStruct a c = .ok m) : m.name = a.item.name ∧ m.module = a.module ∧
      m.capability = c ∧ m.properties = (a.item.fields.getD []).map (Property.ofField a.file) := by
  rw [Model.ofStruct] at h
  split at h
  · cases h
  · obtain rfl := Except.ok.inj h
    exact ⟨rfl, rfl, rfl, rfl⟩

theorem kind_of_structProblem? {a : Located Source.StructItem} {problem : Problem}
    (h : structProblem? a = some problem) : problem.kind = .notExtensible := by
  simp only [structProblem?] at h
  repeat' split at h
  next => exact Option.some.inj h ▸ rfl
  next => exact Option.some.inj h ▸ rfl
  next => exact Option.some.inj h ▸ rfl
  next => cases h
  next =>
    obtain ⟨f, -, rfl⟩ := Option.map_eq_some_iff.1 h
    rfl

/-- A struct that cannot be a model causes an error about its name in all dialects. -/
theorem Model.ofStruct_eq_error {a : Located Source.StructItem} {c : Capability} {e : Diagnostic}
    (h : Model.ofStruct a c = .error e) :
    e.isError = true ∧ e.model = a.item.name ∧ e.dialect = none := by
  rw [Model.ofStruct] at h
  split at h
  next problem hproblem =>
    obtain rfl := Except.error.inj h
    refine ⟨?_, rfl, rfl⟩
    rw [Diagnostic.isError, Diagnostic.severity, Diagnostic.kind, kind_of_structProblem? hproblem]
    rfl
  · cases h

/-! ## Profiles -/

namespace SourceSet

variable {s : SourceSet} {policy : Policy}

theorem isProfiled_iff {i : Nat} {d : Dialect} : s.isProfiled i d = true ↔
    ∃ c ∈ s.impls.filterMap ProfileClaim.of?, c.place? s = some i ∧ c.dialect = d := by
  rw [isProfiled, List.any_eq_true]
  simp only [List.mem_filterMap, Option.any_eq_true, Bool.and_eq_true, decide_eq_true_eq]
  constructor
  · rintro ⟨impl, himpl, claim, hclaim, h⟩
    exact ⟨claim, ⟨impl, himpl, hclaim⟩, h⟩
  · rintro ⟨claim, ⟨impl, himpl, hclaim⟩, h⟩
    exact ⟨impl, himpl, claim, hclaim, h⟩

/-- A model has a profile of its own for each dialect that one configures it in. -/
theorem dialects_claimedProfiles (i : Nat) (m : Model) :
    (s.claimedProfiles (s.impls.filterMap ProfileClaim.of?) i m).map (·.dialect) =
      Dialect.all.filter (s.isProfiled i) := by
  rw [claimedProfiles, List.map_filterMap, ← List.filterMap_eq_filter]
  refine List.filterMap_congr fun d _ => ?_
  rw [Option.guard]
  cases hfind : (s.impls.filterMap ProfileClaim.of?).find? fun c =>
      c.place? s = some i && c.dialect == d with
  | none =>
    have hnone : ¬s.isProfiled i d = true := by
      rw [isProfiled_iff]
      rintro ⟨c, hc, hplace, hdialect⟩
      simpa [hplace, hdialect] using List.find?_eq_none.1 hfind c hc
    rw [if_neg hnone]
    rfl
  | some c =>
    have hc := List.find?_some hfind
    simp only [Bool.and_eq_true, decide_eq_true_eq, beq_iff_eq] at hc
    rw [if_pos (isProfiled_iff.2 ⟨c, List.mem_of_find?_eq_some hfind, hc.1, hc.2⟩), ← hc.2]
    rfl

/-- A model is to have tables in the dialects of its struct, unless it lacks a profile that is demanded,
which is an error. -/
theorem dialects_profilesAt {i : Nat} {m : Model} (htable : m.capability.hasTable = true) :
    (s.profilesAt policy i m).map (·.dialect) = s.dialectsAt policy i ∧
        (policy.requireProfile = true → Dialect.all.filter (s.isProfiled i) ≠ []) ∨
      s.profilesAt policy i m = [] ∧ ⟨.missingProfile, m.name, none, none, m.location⟩ ∈
        (policy.complete m (s.claimedProfiles (s.impls.filterMap ProfileClaim.of?) i m)).2 := by
  have hclaimed := s.dialects_claimedProfiles i m
  rw [profilesAt, dialectsAt, ← hclaimed, Policy.complete]
  cases s.claimedProfiles (s.impls.filterMap ProfileClaim.of?) i m with
  | cons p ps => exact .inl ⟨rfl, nofun⟩
  | nil =>
    cases hrequired : policy.requireProfile with
    | false => exact .inl ⟨by simp [htable, Profile.default, Function.comp_def], nofun⟩
    | true => exact .inr (by simp [htable])

end SourceSet

end Tablewright
