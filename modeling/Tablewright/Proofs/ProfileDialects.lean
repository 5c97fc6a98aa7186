import Tablewright.Proofs.Namesakes

/-!
# Dialects of profiles

Profiles come to a model by two ways. Those that are claimed for it are one for each dialect, in the
order of the dialects. Where none is claimed and none demanded, they are made from the dialects of the
policy, as these are given: in any order, and as often as each is named.

## Key results

- `claimed_or_defaulted`: where the profiles of a model come from
- `dialects_tables`: the dialects that code for a model is generated in
- `profiles_in_dialect_order`: which policies have each table generated once
-/

namespace Tablewright

/-- No dialect twice, and each in its place. -/
def Dialect.Increasing (ds : List Dialect) : Prop := ds.Pairwise fun d d' => d.rank < d'.rank

instance (ds : List Dialect) : Decidable (Dialect.Increasing ds) :=
  inferInstanceAs (Decidable (ds.Pairwise _))

theorem Dialect.increasing_filter_all (p : Dialect → Bool) : Increasing (all.filter p) := by
  have hall : Increasing all := by decide
  exact List.Pairwise.filter p hall

theorem Dialect.Increasing.nodup {ds : List Dialect} (h : Increasing ds) : ds.Nodup :=
  h.imp fun hlt heq => absurd (heq ▸ hlt) (lt_irrefl _)

/-- What is left of a list agrees with what was there. -/
theorem sublist_map_filterMap {α β γ : Type} {f : α → Option β} {g : β → γ} {h : α → γ}
    (hf : ∀ a b, f a = some b → g b = h a) (xs : List α) :
    ((xs.filterMap f).map g).Sublist (xs.map h) := by
  induction xs with
  | nil => exact .slnil
  | cons x xs ih =>
    cases hx : f x with
    | none =>
      rw [List.filterMap_cons_none hx]
      exact ih.cons _
    | some y =>
      rw [List.filterMap_cons_some hx, List.map_cons, List.map_cons, hf x y hx]
      exact ih.cons_cons _

/-! ## Where profiles come from -/

namespace DiscoveredModel

/-- The dialects of a model's profiles. -/
def dialects (m : DiscoveredModel) : List Dialect := m.profiles.map (·.dialect)

/-- The profiles of the model are claimed for it. -/
def IsClaimed (m : DiscoveredModel) : Prop := ∀ p ∈ m.profiles, p.name.isSome = true

/-- The profiles of the model are those of a policy that demands none. -/
def IsDefaulted (policy : Policy) (m : DiscoveredModel) : Prop :=
  policy.requireProfile = false ∧ m.profiles = policy.defaultDialects.map (Profile.default m.model)

theorem dialects_of_isDefaulted {policy : Policy} {m : DiscoveredModel} (h : m.IsDefaulted policy) :
    m.dialects = policy.defaultDialects := by
  rw [dialects, h.2, List.map_map]
  exact List.map_id _

end DiscoveredModel

namespace SourceSet

variable {s : SourceSet} {policy : Policy} {m : DiscoveredModel}

theorem claimed_or_defaulted (hm : m ∈ (s.discover policy).models) :
    m.IsClaimed ∧ Dialect.Increasing m.dialects ∨ m.IsDefaulted policy := by
  obtain ⟨i, hi⟩ := mem_discovered_iff.1 hm
  obtain ⟨model, -, rfl⟩ := Option.map_eq_some_iff.1 hi
  rw [profilesAt, Policy.complete]
  -- There are claimed profiles, or a policy that demands them, or the dialects of the policy.
  split
  · refine .inl ⟨fun p hp => ?_, ?_⟩
    · obtain ⟨d, -, hp⟩ := List.mem_filterMap.1 hp
      obtain ⟨claim, -, rfl⟩ := Option.map_eq_some_iff.1 hp
      rfl
    · rw [DiscoveredModel.dialects, dialects_claimedProfiles]
      exact Dialect.increasing_filter_all _
  · split
    · exact .inl ⟨fun p hp => absurd hp List.not_mem_nil, .nil⟩
    next hdemanded => exact .inr ⟨by simpa using hdemanded, rfl⟩

/-- All models have their profiles in order just if the policy has its dialects so, or no profile is made
from them. -/
theorem increasing_iff : (∀ m ∈ (s.discover policy).models, Dialect.Increasing m.dialects) ↔
    Dialect.Increasing policy.defaultDialects ∨ ∀ m ∈ (s.discover policy).models, m.IsClaimed := by
  constructor
  · intro h
    by_cases hpolicy : Dialect.Increasing policy.defaultDialects
    · exact .inl hpolicy
    · refine .inr fun m hm => ?_
      rcases claimed_or_defaulted hm with ⟨hclaimed, -⟩ | hdefaulted
      · exact hclaimed
      · rw [← DiscoveredModel.dialects_of_isDefaulted hdefaulted] at hpolicy
        exact absurd (h m hm) hpolicy
  · intro h m hm
    rcases claimed_or_defaulted hm with ⟨-, hincreasing⟩ | hdefaulted
    · exact hincreasing
    · rcases h with hpolicy | hclaimed
      · rwa [DiscoveredModel.dialects_of_isDefaulted hdefaulted]
      · -- A profile that was made has no name, so there is none.
        rw [DiscoveredModel.dialects]
        cases hprofiles : m.profiles with
        | nil => exact .nil
        | cons p ps =>
          have hp : p ∈ m.profiles := hprofiles ▸ List.mem_cons_self
          have hname := hclaimed m hm p hp
          rw [hdefaulted.2] at hp
          obtain ⟨d, -, rfl⟩ := List.mem_map.1 hp
          cases hname

/-! ## Generated tables -/

/-- The tables that code is generated for: the module and name of the model, and the dialect. -/
def generatedTables (s : SourceSet) (policy : Policy) : List ((List String × String) × Dialect) :=
  (s.units policy).flatMap fun u => u.tables.map fun t => ((u.model.module, u.model.name), t.dialect)

/-- Code for a model is generated in the dialects of its profiles, in their order, but for those in which
an error is about it. -/
theorem dialects_tables (hm : m ∈ (s.discover policy).models) {u : EmittedModel}
    (hu : m.unit? (s.discover policy).enums s.symbols (s.diagnosed policy) = some u)
    (htable : m.model.capability.hasTable = true) : u.tables.map (·.dialect) =
      m.dialects.filter fun d => !(s.diagnosed policy).any (·.blocks m.model.name d) := by
  obtain ⟨meanings, hmeans, -, -, htables⟩ := DiscoveredModel.eq_of_unit? hu
  have hdialects : ∀ p ∈ m.openProfiles (s.diagnosed policy),
      (p.resolve m.model meanings s.symbols).table?.map (·.dialect) = some p.dialect := by
    intro p hp
    obtain ⟨hprofile, hopen⟩ := DiscoveredModel.mem_openProfiles.1 hp
    obtain ⟨t, ht⟩ := exists_configures hm htable hmeans hprofile hopen
    rw [ht.table, Option.map_some, Profile.dialect_of_table? ht.table]
  rw [htables, if_pos htable, List.map_filterMap, List.filterMap_congr hdialects]
  show (m.openProfiles (s.diagnosed policy)).filterMap (some ∘ Profile.dialect) = _
  rw [List.filterMap_eq_map, DiscoveredModel.openProfiles, DiscoveredModel.dialects, List.filter_map]
  rfl

/-- No two models have the same module and name. -/
theorem nodup_models (s : SourceSet) (policy : Policy) :
    ((s.discover policy).models.map fun m => (m.model.module, m.model.name)).Nodup := by
  rw [(models_perm.map _).nodup_iff, List.map_filterMap]
  refine List.nodup_range.filterMap fun i j key hi hj => ?_
  -- A struct that a model is made of is the only one of its name that anything is asked of.
  have hstruct {k : Nat} (hk : key ∈ (s.discoveredAt? policy k).map
      fun m => (m.model.module, m.model.name)) :
      ∃ a, s.structs[k]? = some a ∧ s.capabilityAt? k ≠ none ∧ (a.module, a.item.name) = key := by
    obtain ⟨m, hm, rfl⟩ := Option.map_eq_some_iff.1 hk
    obtain ⟨a, c, ha, hc, hstruct⟩ := exists_struct_of_discoveredAt? hm
    obtain ⟨hname, hmodule, -⟩ := Model.ofStruct_eq_ok hstruct
    exact ⟨a, ha, by rw [hc]; exact Option.some_ne_none c, by rw [hname, hmodule]⟩
  obtain ⟨a, ha, hi, hkey⟩ := hstruct hi
  obtain ⟨b, hb, hj, hkey'⟩ := hstruct hj
  obtain ⟨hmodule, hname⟩ := Prod.mk.inj (hkey.trans hkey'.symm)
  exact place_unique ha hb hi hj hmodule hname

theorem nodup_units (s : SourceSet) (policy : Policy) :
    ((s.units policy).map fun u => (u.model.module, u.model.name)).Nodup := by
  refine (s.nodup_models policy).sublist (sublist_map_filterMap (fun m u hu => ?_) _)
  obtain ⟨_, -, hmodel, -⟩ := DiscoveredModel.eq_of_unit? hu
  rw [hmodel]

/-- A table is generated twice only for one model: models are told apart by their modules and names. -/
theorem nodup_generatedTables_iff : (s.generatedTables policy).Nodup ↔
    ∀ u ∈ s.units policy, (u.tables.map (·.dialect)).Nodup := by
  have hkeys := List.pairwise_map.1 (s.nodup_units policy)
  have hpairs (u : EmittedModel) :
      (u.tables.map fun t => ((u.model.module, u.model.name), t.dialect)) =
        (u.tables.map (·.dialect)).map (Prod.mk (u.model.module, u.model.name)) := by
    rw [List.map_map]
    rfl
  rw [generatedTables, List.nodup_flatMap]
  simp only [hpairs, List.nodup_map_iff (Prod.mk_right_injective _)]
  refine and_iff_left (hkeys.imp fun hne x hx hx' => hne ?_)
  obtain ⟨d, -, rfl⟩ := List.mem_map.1 hx
  obtain ⟨d', -, hsame⟩ := List.mem_map.1 hx'
  exact (congrArg Prod.fst hsame).symm

/-- No table is generated twice if the policy demands profiles or names no dialect twice. -/
theorem nodup_generatedTables (h : policy.requireProfile = true ∨ policy.defaultDialects.Nodup) :
    (s.generatedTables policy).Nodup := by
  refine nodup_generatedTables_iff.2 fun u hu => ?_
  obtain ⟨m, hm, hu⟩ := List.mem_filterMap.1 hu
  have hdialects : m.dialects.Nodup := by
    rcases claimed_or_defaulted hm with ⟨-, hincreasing⟩ | hdefaulted
    · exact hincreasing.nodup
    · rw [DiscoveredModel.dialects_of_isDefaulted hdefaulted]
      exact h.resolve_left (by simp [hdefaulted.1])
  cases htable : m.model.capability.hasTable with
  | true =>
    rw [dialects_tables hm hu htable]
    exact hdialects.filter _
  | false =>
    obtain ⟨_, -, -, -, htables⟩ := DiscoveredModel.eq_of_unit? hu
    rw [htables, htable]
    exact List.nodup_nil

/-- The profiles of a model are claimed for it, and then for one dialect after the other, or they are those
of a policy that demands none, as its dialects are given. So all are in order just if the policy has its
dialects so or no profile is made from them. Code is generated in the dialects of the profiles, in their
order, and each table is generated once if the policy demands profiles or names no dialect twice. -/
theorem profiles_in_dialect_order (s : SourceSet) (policy : Policy) :
    (∀ m ∈ (s.discover policy).models,
      m.IsClaimed ∧ Dialect.Increasing m.dialects ∨ m.IsDefaulted policy) ∧
    ((∀ m ∈ (s.discover policy).models, Dialect.Increasing m.dialects) ↔
      Dialect.Increasing policy.defaultDialects ∨ ∀ m ∈ (s.discover policy).models, m.IsClaimed) ∧
    (∀ m ∈ (s.discover policy).models, m.model.capability.hasTable = true → ∀ u,
      m.unit? (s.discover policy).enums s.symbols (s.diagnosed policy) = some u →
        u.tables.map (·.dialect) =
          m.dialects.filter fun d => !(s.diagnosed policy).any (·.blocks m.model.name d)) ∧
    ((s.generatedTables policy).Nodup ↔ ∀ u ∈ s.units policy, (u.tables.map (·.dialect)).Nodup) ∧
    (policy.requireProfile = true ∨ policy.defaultDialects.Nodup → (s.generatedTables policy).Nodup) :=
  ⟨fun _ hm => claimed_or_defaulted hm, increasing_iff, fun _ hm htable _ hu => dialects_tables hm hu htable,
    nodup_generatedTables_iff, nodup_generatedTables⟩

/-- The goods have their profiles in order, and each of their tables once, also where both dialects are
the default. -/
theorem profiles_in_dialect_order_goods :
    (∀ m ∈ (goods.discover ⟨false, Dialect.all⟩).models, Dialect.Increasing m.dialects) ∧
      (goods.generatedTables ⟨false, Dialect.all⟩).Nodup ∧ (goods.generatedTables .standard).Nodup := by
  obtain ⟨-, hincreasing, -, -, hnodup⟩ := profiles_in_dialect_order goods ⟨false, Dialect.all⟩
  obtain ⟨-, -, -, -, hstandard⟩ := profiles_in_dialect_order goods .standard
  exact ⟨hincreasing.2 (.inl (by decide)), hnodup (.inr (by decide)), hstandard (.inl rfl)⟩

end SourceSet

/-! ## Dialects that are named twice, or in another order -/

/-- Items without a profile. -/
def unprofiled : SourceSet :=
  ⟨[.publicStruct "shop" "Item" [("id", "i64")]], [], [.traitImpl "shop" "DomainModel" [] "Item" []],
    ⟨[]⟩, []⟩

/-- The items have two profiles for one dialect, or profiles in the wrong order, just as the policy names
the dialects. In the first case their only table is generated twice. -/
theorem profiles_as_policy_names :
    (∃ m ∈ (unprofiled.discover ⟨false, [.postgres, .postgres]⟩).models,
      m.dialects = [.postgres, .postgres] ∧ ¬Dialect.Increasing m.dialects) ∧
    (∃ m ∈ (unprofiled.discover ⟨false, [.postgres, .sqlServer]⟩).models,
      m.dialects = [.postgres, .sqlServer] ∧ ¬Dialect.Increasing m.dialects) ∧
    ∃ g, unprofiled.generate ⟨false, [.postgres, .postgres]⟩ = .ok g ∧
      g.models.map (·.entry) = [("crate::shop::Item", .domain, some .postgres),
        ("crate::shop::Item", .domain, some .postgres)] ∧
      ¬(unprofiled.generatedTables ⟨false, [.postgres, .postgres]⟩).Nodup := by
  have hnames : (emittedNames (unprofiled.units ⟨false, [.postgres, .postgres]⟩)).all Code.isName = true := by
    decide +kernel
  obtain ⟨g, h⟩ := SourceSet.exists_generate_iff.2 (List.all_eq_true.1 hnames)
  refine ⟨by decide +kernel, by decide +kernel, g, h, ?_, by decide +kernel⟩
  rw [SourceSet.models_of_generate h]
  decide +kernel

end Tablewright
