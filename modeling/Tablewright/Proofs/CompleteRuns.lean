import Tablewright.Proofs.DiscoveredModels
import Tablewright.Proofs.GeneratedTables

/-!
# Complete runs

A run of the generator leaves nothing out without an error. If it finds no error, then its models are
just those that the declarations ask for, told here struct by struct. If it finds some, then a table is
missing just if an error is about its model, in its dialect or in all of them.

## Key results

- `entries_discoveredAt`: without errors, a struct gives what it is asked for
- `generate_complete`: what a run gives, with and without errors
-/

namespace Tablewright

/-- An error is about a model, in all dialects or in the given one. -/
def Diagnostic.Concerns (e : Diagnostic) (model : String) (d : Dialect) : Prop :=
  e.isError = true ∧ e.model = model ∧ (e.dialect = none ∨ e.dialect = some d)

/-- A diagnostic keeps a table back just if it is an error about its model and its dialect. -/
theorem Diagnostic.blocks_eq_false_iff {e : Diagnostic} {model : String} {d : Dialect} :
    e.blocks model d = false ↔ ¬e.Concerns model d := by
  rw [Diagnostic.blocks, Diagnostic.Concerns]
  cases e.dialect <;> by_cases hmodel : e.model = model <;> cases e.isError <;> simp [hmodel]

/-- No error is about a model, in all dialects or in the given one. -/
def Generation.IsQuiet (g : Generation) (model : String) (d : Dialect) : Prop :=
  ∀ e ∈ g.diagnostics, ¬e.Concerns model d

/-- Every model is to have a table, and none is to have two in one dialect. -/
def Policy.IsComplete (policy : Policy) : Prop :=
  policy.requireProfile = true ∨ policy.defaultDialects ≠ [] ∧ policy.defaultDialects.Nodup

/-- The model, the capability and the dialect that an entry is for. -/
def GeneratedModel.entry (e : GeneratedModel) : String × Capability × Option Dialect :=
  (e.path, e.capability, e.dialect)

namespace SourceSet

variable (s : SourceSet) (policy : Policy)

/-- What the struct at a place asks for: its rows, or its tables in all dialects that it has. -/
def expectedAt (place : Nat) : List (String × Capability × Option Dialect) :=
  match s.structs[place]?, s.capabilityAt? place with
  | some a, some c =>
    if c.hasTable then
      (s.dialectsAt policy place).map fun d => (rootedPath a.module a.item.name, c, some d)
    else [(rootedPath a.module a.item.name, c, none)]
  | _, _ => []

/-- What all structs ask for. -/
def expected : List (String × Capability × Option Dialect) :=
  (List.range s.structs.length).flatMap (s.expectedAt policy)

variable {s policy}

theorem rejected_mem_diagnosed {i : Nat} {e : Diagnostic} (h : s.modelAt? i = some (.error e)) :
    e ∈ s.diagnosed policy :=
  List.mem_append_left _ (rejected_mem_diagnostics h)

/-- Profiles that are demanded and not there are told of as an error. -/
theorem dialects_of_discovered {i : Nat} {m : Model} (hm : s.modelAt? i = some (.ok m))
    (htable : m.capability.hasTable = true)
    (hfine : ∀ e ∈ s.diagnosed policy, e.isError = true → e.model = m.name → e.dialect ≠ none) :
    (s.profilesAt policy i m).map (·.dialect) = s.dialectsAt policy i ∧
      (policy.requireProfile = true → Dialect.all.filter (s.isProfiled i) ≠ []) := by
  rcases dialects_profilesAt htable with h | ⟨-, hmissing⟩
  · exact h
  · exact absurd rfl
      (hfine _ (List.mem_append_left _ (complete_subset_diagnostics hm hmissing)) rfl rfl)

/-- Types that mean nothing are told of as errors. -/
theorem means_of_discovered {m : DiscoveredModel} (hm : m ∈ (s.discover policy).models)
    (hfine : ∀ e ∈ s.diagnosed policy,
      e.isError = true → e.model = m.model.name → e.dialect ≠ none) :
    ∃ meanings, m.model.Means (s.discover policy).enums meanings := by
  refine Classical.not_not.1 fun hnone => hnone (Model.exists_means_iff.2 ?_)
  refine List.eq_nil_iff_forall_not_mem.2 fun e he => ?_
  have htold := analyse_subset_diagnosed hm
  rw [DiscoveredModel.analyse_of_unsupported (not_exists.1 hnone)] at htold
  obtain ⟨q, -, reason, -, rfl⟩ := Model.mem_unsupported.1 he
  exact hfine _ (htold he) rfl rfl rfl

/-- Without errors, the struct at a place gives what it asks for. -/
theorem entries_discoveredAt (hfine : ∀ e ∈ s.diagnosed policy, e.isError = false) (i : Nat) :
    (s.discoveredAt? policy i).toList.flatMap (fun m =>
      (m.generated (s.discover policy).enums s.symbols (s.diagnosed policy)).map (·.entry)) =
        s.expectedAt policy i := by
  have hquiet (model : String) :
      ∀ e ∈ s.diagnosed policy, e.isError = true → e.model = model → e.dialect ≠ none :=
    fun e he herror => absurd herror (by simp [hfine e he])
  cases hmodel : s.modelAt? i with
  | none =>
    -- Nothing is asked of the struct, or there is none.
    rw [discoveredAt?, hmodel, expectedAt]
    rw [modelAt?] at hmodel
    cases ha : s.structs[i]? <;> cases hc : s.capabilityAt? i <;> simp_all
  | some r =>
    obtain ⟨a, c, ha, hc, hr⟩ := modelAt?_eq_some_iff.1 hmodel
    cases r with
    | error e =>
      -- A struct that cannot be a model would have caused an error.
      have herror := (Model.ofStruct_eq_error hr).1
      rw [hfine e (rejected_mem_diagnosed hmodel)] at herror
      cases herror
    | ok m =>
      have hdiscovered : s.discoveredAt? policy i = some ⟨m, s.profilesAt policy i m⟩ := by
        rw [discoveredAt?, hmodel]
        rfl
      have hmem := mem_discovered_iff.2 ⟨i, hdiscovered⟩
      obtain ⟨hname, hmodule, hcapability, -⟩ := Model.ofStruct_eq_ok hr
      have hpath : m.path = rootedPath a.module a.item.name := by rw [Model.path, hname, hmodule]
      obtain ⟨meanings, hmeans⟩ := means_of_discovered hmem (hquiet m.name)
      rw [hdiscovered, Option.toList_some, List.flatMap_singleton, expectedAt, ha, hc]
      cases htable : m.capability.hasTable with
      | false =>
        rw [DiscoveredModel.generated_of_rows hmeans htable]
        rw [hcapability] at htable
        simp [htable, GeneratedModel.entry, Model.generatedRows, hpath, hcapability]
      | true =>
        have hopen : DiscoveredModel.openProfiles ⟨m, s.profilesAt policy i m⟩ (s.diagnosed policy) =
            s.profilesAt policy i m := by
          refine List.filter_eq_self.2 fun p _ => ?_
          rw [Bool.not_eq_true', List.any_eq_false]
          intro e he
          simp [Diagnostic.blocks, hfine e he]
        obtain ⟨hdialects, -⟩ := dialects_of_discovered hmodel htable (hquiet m.name)
        have hentries := DiscoveredModel.entries_generated hmeans htable fun p hp =>
          problems_subset_diagnosed hmem htable hmeans hp
        rw [hopen] at hentries
        refine hentries.trans ?_
        rw [hcapability] at htable
        simp [htable, hpath, hcapability, ← hdialects, Function.comp_def]

variable {g : Generation}

theorem isError_diagnosed (h : s.generate policy = .ok g) (hnone : g.hasErrors = false) :
    ∀ e ∈ s.diagnosed policy, e.isError = false := by
  intro e he
  simpa using List.any_eq_false.1 hnone e ((mem_diagnostics_iff h).2 he)

/-- Without errors, a run gives what the structs ask for. -/
theorem entries_perm (h : s.generate policy = .ok g) (hnone : g.hasErrors = false) :
    (g.models.map (·.entry)).Perm (s.expected policy) := by
  have hexpected : s.expected policy =
      ((List.range s.structs.length).filterMap (s.discoveredAt? policy)).flatMap fun m =>
        (m.generated (s.discover policy).enums s.symbols (s.diagnosed policy)).map (·.entry) := by
    rw [List.filterMap_eq_flatMap_toList, List.flatMap_assoc]
    exact List.flatMap_congr fun i _ => (entries_discoveredAt (isError_diagnosed h hnone) i).symm
  rw [(eq_of_generate h).2, List.map_flatMap, hexpected]
  exact models_perm.flatMap_right _

/-- Without errors, a struct that is to have tables is to have some, and one in each dialect. -/
theorem dialectsAt_nodup (h : s.generate policy = .ok g) (hpolicy : policy.IsComplete)
    (hnone : g.hasErrors = false) {i : Nat} {a : Located Source.StructItem} {c : Capability}
    (ha : s.structs[i]? = some a) (hc : s.capabilityAt? i = some c) (htable : c.hasTable = true) :
    s.dialectsAt policy i ≠ [] ∧ (s.dialectsAt policy i).Nodup := by
  have hfine := isError_diagnosed h hnone
  have hmodel : s.modelAt? i = some (Model.ofStruct a c) := modelAt?_eq_some_iff.2 ⟨a, c, ha, hc, rfl⟩
  cases hr : Model.ofStruct a c with
  | error e =>
    have herror := (Model.ofStruct_eq_error hr).1
    rw [hfine e (rejected_mem_diagnosed (hr ▸ hmodel))] at herror
    cases herror
  | ok m =>
    have hquiet : ∀ e ∈ s.diagnosed policy, e.isError = true → e.model = m.name → e.dialect ≠ none :=
      fun e he herror => absurd herror (by simp [hfine e he])
    obtain ⟨-, hrequired⟩ := dialects_of_discovered (hr ▸ hmodel)
      ((Model.ofStruct_eq_ok hr).2.2.1 ▸ htable) hquiet
    have hall : (Dialect.all.filter (s.isProfiled i)).Nodup :=
      List.filter_sublist.nodup (by decide)
    rw [dialectsAt]
    cases hclaimed : Dialect.all.filter (s.isProfiled i) with
    | nil => exact hpolicy.resolve_left fun hdemanded => hrequired hdemanded hclaimed
    | cons d ds =>
      rw [hclaimed] at hall
      exact ⟨List.cons_ne_nil d ds, hall⟩

/-- A profile that no error is about has a table. -/
theorem exists_table_of_isQuiet (h : s.generate policy = .ok g) {m : DiscoveredModel}
    (hm : m ∈ (s.discover policy).models) (htable : m.model.capability.hasTable = true)
    {meanings : List Meaning} (hmeans : m.model.Means (s.discover policy).enums meanings) {p : Profile}
    (hp : p ∈ m.profiles) (hquiet : g.IsQuiet m.model.name p.dialect) :
    ∃ t, s.Configures policy m meanings p t ∧ m.model.generatedTable t ∈ g.models := by
  have hopen : ∀ e ∈ g.diagnostics, e.blocks m.model.name p.dialect = false :=
    fun e he => Diagnostic.blocks_eq_false_iff.2 (hquiet e he)
  obtain ⟨t, ht⟩ := exists_configures hm htable hmeans hp fun e he =>
    hopen e ((mem_diagnostics_iff h).2 he)
  exact ⟨t, ht, (mem_models_iff h).2 (.inr ⟨m, meanings, p, t, ht, hopen, rfl⟩)⟩

/-- A table is shown just if no error is about its model and its dialect. -/
theorem exists_entry_iff (h : s.generate policy = .ok g) {i : Nat} {a : Located Source.StructItem}
    {c : Capability} (ha : s.structs[i]? = some a) (hc : s.capabilityAt? i = some c)
    (htable : c.hasTable = true)
    (hsupported : ∀ f ∈ a.item.fields.getD [], ∃ meaning, Meaning.ofType (s.discover policy).enums
      (Property.ofField a.file f).inner = .ok meaning) {d : Dialect} (hd : d ∈ s.dialectsAt policy i) :
    (∃ e ∈ g.models, e.name = a.item.name ∧ e.path = rootedPath a.module a.item.name ∧
      e.dialect = some d) ↔ g.IsQuiet a.item.name d := by
  constructor
  · rintro ⟨e, he, hname, -, hdialect⟩
    rcases (mem_models_iff h).1 he with ⟨m, -, -, -, rfl⟩ | ⟨m, meanings, p, t, ht, hopen, rfl⟩
    · cases hdialect
    · obtain rfl : p.dialect = d :=
        (Profile.dialect_of_table? ht.table).symm.trans (Option.some.inj hdialect)
      exact fun e he => hname ▸ Diagnostic.blocks_eq_false_iff.1 (hopen e he)
  · intro hquiet
    have htold : ∀ e ∈ s.diagnosed policy, e.isError = true → e.model = a.item.name →
        e.dialect ≠ none :=
      fun e he herror hmodel hnone =>
        hquiet e ((mem_diagnostics_iff h).2 he) ⟨herror, hmodel, .inl hnone⟩
    have hmodel : s.modelAt? i = some (Model.ofStruct a c) :=
      modelAt?_eq_some_iff.2 ⟨a, c, ha, hc, rfl⟩
    cases hr : Model.ofStruct a c with
    | error e =>
      obtain ⟨herror, hname, hall⟩ := Model.ofStruct_eq_error hr
      exact absurd hall (htold e (rejected_mem_diagnosed (hr ▸ hmodel)) herror hname)
    | ok m =>
      rw [hr] at hmodel
      obtain ⟨hname, hmodule, hcapability, hproperties⟩ := Model.ofStruct_eq_ok hr
      rw [← hname] at htold hquiet
      rw [← hcapability] at htable
      obtain ⟨hdialects, -⟩ := dialects_of_discovered hmodel htable htold
      obtain ⟨p, hp, rfl⟩ := List.mem_map.1 (hdialects ▸ hd)
      obtain ⟨meanings, hmeans⟩ : ∃ meanings, m.Means (s.discover policy).enums meanings := by
        refine exists_forall₂_iff.2 fun q hq => ?_
        obtain ⟨f, hf, rfl⟩ := List.mem_map.1 (hproperties ▸ hq)
        exact hsupported f hf
      have hm : (⟨m, s.profilesAt policy i m⟩ : DiscoveredModel) ∈ (s.discover policy).models :=
        mem_discovered_iff.2 ⟨i, by rw [discoveredAt?, hmodel]; rfl⟩
      obtain ⟨t, ht, he⟩ := exists_table_of_isQuiet h hm htable hmeans hp hquiet
      refine ⟨_, he, hname, ?_, congrArg some (Profile.dialect_of_table? ht.table)⟩
      show rootedPath m.module m.name = _
      rw [hname, hmodule]

/-- A run gives nothing only for a name that cannot be one. Without errors it gives what the structs ask
for, each of them once. In any case it gives a table just if no error is about the model and the dialect;
then all columns have a type. -/
theorem generate_complete (s : SourceSet) (policy : Policy) :
    ((∃ g, s.generate policy = .ok g) ↔
      ∀ name ∈ emittedNames (s.units policy), Code.isName name = true) ∧
    ∀ g, s.generate policy = .ok g →
      (policy.IsComplete → g.hasErrors = false →
        (g.models.map (·.entry)).Perm (s.expected policy) ∧
        (∀ i a c, s.structs[i]? = some a → s.capabilityAt? i = some c → c.hasTable = true →
          s.dialectsAt policy i ≠ [] ∧ (s.dialectsAt policy i).Nodup) ∧
        ∀ i j a b, s.structs[i]? = some a → s.structs[j]? = some b → s.capabilityAt? i ≠ none →
          s.capabilityAt? j ≠ none → a.module = b.module → a.item.name = b.item.name → i = j) ∧
      (∀ i a c, s.structs[i]? = some a → s.capabilityAt? i = some c → c.hasTable = true →
        (∀ f ∈ a.item.fields.getD [], ∃ meaning, Meaning.ofType (s.discover policy).enums
          (Property.ofField a.file f).inner = .ok meaning) →
        ∀ d ∈ s.dialectsAt policy i,
          ((∃ e ∈ g.models, e.name = a.item.name ∧ e.path = rootedPath a.module a.item.name ∧
            e.dialect = some d) ↔ g.IsQuiet a.item.name d)) ∧
      ∀ m ∈ (s.discover policy).models, m.model.capability.hasTable = true →
        ∀ meanings, m.model.Means (s.discover policy).enums meanings → ∀ p ∈ m.profiles,
          g.IsQuiet m.model.name p.dialect →
            ∃ t, s.Configures policy m meanings p t ∧ m.model.generatedTable t ∈ g.models := by
  refine ⟨exists_generate_iff, fun g h => ⟨fun hpolicy hnone => ⟨entries_perm h hnone, ?_, ?_⟩, ?_, ?_⟩⟩
  · exact fun i a c => dialectsAt_nodup h hpolicy hnone
  · exact fun i j a b => place_unique
  · exact fun i a c ha hc htable hsupported d => exists_entry_iff h ha hc htable hsupported
  · exact fun m hm htable meanings hmeans p => exists_table_of_isQuiet h hm htable hmeans

/-- Of the goods there is a table in the dialect of their profile, and the totals are read. -/
theorem generate_complete_goods : ∃ g, goods.generate .standard = .ok g ∧
    (g.models.map (·.entry)).Perm [("crate::stock::Goods", .bulk, some .postgres),
      ("crate::report::Totals", .result, none)] := by
  obtain ⟨g, h, -⟩ := exists_generate_goods
  have hnone : g.hasErrors = false :=
    List.any_eq_false.2 fun e he =>
      List.any_eq_false.1 diagnosed_goods e ((mem_diagnostics_iff h).1 he)
  have hexpected : goods.expected .standard = [("crate::stock::Goods", .bulk, some .postgres),
      ("crate::report::Totals", .result, none)] := by cbv
  exact ⟨g, h, hexpected ▸ (((generate_complete goods .standard).2 g h).1 (.inl rfl) hnone).1⟩

end SourceSet

end Tablewright
