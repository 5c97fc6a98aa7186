import Mathlib.Data.List.Find
import Tablewright.Proofs.SeparateDialects
import Tablewright.Proofs.ValidNames

/-!
# The order of implementations

The implementations of a crate are gone through in their order to find capabilities, profiles and the
functions beside them. As long as no struct has two profiles in one dialect, and the functions beside
profiles stay in their order, that order does not matter: the same models and profiles are found, what is
wrong is told in another order at most, and so the same code is generated.

## Key results

- `Reordered.discover_models`: the same models and profiles are found
- `Reordered.diagnosed_perm`, `Reordered.units`: the same is wrong, and code is generated for the same
- `order_irrelevant`: a run gives the same
-/

namespace Tablewright

/-- An implementation whose functions are beside the profiles that a type of the name gives. -/
def Located.isBeside (name : String) (i : Located Source.ImplItem) : Bool :=
  i.item.ofTrait.isNone && i.item.type.name == name

namespace SourceSet

variable (s : SourceSet)

/-- The declarations with other implementations. -/
def withImpls (impls : List (Located Source.ImplItem)) : SourceSet := { s with impls }

/-- The implementations of a crate in another order, those beside the profiles of each type in theirs. -/
structure Reordered (impls : List (Located Source.ImplItem)) : Prop where
  perm : impls.Perm s.impls
  beside : ∀ name, impls.filter (·.isBeside name) = s.impls.filter (·.isBeside name)

/-- No two of some profiles are for one struct in one dialect. -/
def Apart (cs : List ProfileClaim) : Prop :=
  cs.Pairwise fun a b => ∀ i, a.place? s = some i → b.place? s = some i → a.dialect ≠ b.dialect

/-- No struct has two profiles in one dialect. -/
def ProfiledOnce : Prop := s.Apart s.profileClaims

variable {s} {impls : List (Located Source.ImplItem)} {policy : Policy}

/-! ## What is found -/

theorem withImpls_claim? : (s.withImpls impls).claim? = s.claim? := rfl

theorem Reordered.claims (h : s.Reordered impls) :
    ((s.withImpls impls).impls.filterMap (s.withImpls impls).claim?).Perm (s.impls.filterMap s.claim?) := by
  rw [withImpls_claim?]
  exact h.perm.filterMap _

theorem Reordered.profileClaims (h : s.Reordered impls) :
    (s.withImpls impls).profileClaims.Perm s.profileClaims :=
  h.perm.filterMap _

/-- The same is asked for of each struct. -/
theorem Reordered.asksFor (h : s.Reordered impls) : (s.withImpls impls).asksFor = s.asksFor := by
  funext i c
  exact h.perm.any_eq

theorem Reordered.modelAt? (h : s.Reordered impls) : (s.withImpls impls).modelAt? = s.modelAt? := by
  funext i
  rw [SourceSet.modelAt?, SourceSet.modelAt?, capabilityAt?, capabilityAt?, h.asksFor]
  rfl

theorem Reordered.modelsOf (h : s.Reordered impls) :
    (s.withImpls impls).modelsOf ((s.withImpls impls).impls.filterMap (s.withImpls impls).claim?) =
      s.modelsOf (s.impls.filterMap s.claim?) := by
  rw [modelsOf_eq, modelsOf_eq, h.modelAt?]
  rfl

theorem Reordered.models (h : s.Reordered impls) : (s.withImpls impls).models = s.models := by
  rw [SourceSet.models, SourceSet.models, h.modelsOf]

/-! ## Profiles -/

/-- A profile has the same content. -/
theorem Reordered.profileOf (h : s.Reordered impls) : (s.withImpls impls).profileOf = s.profileOf := by
  funext m c
  have hbeside : ((s.withImpls impls).impls.filter fun i =>
      i.item.ofTrait.isNone && i.item.type.name == c.name) =
        s.impls.filter fun i => i.item.ofTrait.isNone && i.item.type.name == c.name := h.beside c.name
  rw [SourceSet.profileOf, SourceSet.profileOf, hbeside]

/-- Two profiles of a struct in one dialect are one profile. -/
theorem ProfiledOnce.unique (hone : s.ProfiledOnce) (i : Nat) (d : Dialect) :
    {c | c ∈ s.profileClaims ∧ (decide (c.place? s = some i) && c.dialect == d) = true}.Subsingleton := by
  have hsymm : Std.Symm fun a b : ProfileClaim =>
      ∀ i, a.place? s = some i → b.place? s = some i → a.dialect ≠ b.dialect :=
    ⟨fun a b hab i hb ha => (hab i ha hb).symm⟩
  rintro a ⟨ha, hai⟩ b ⟨hb, hbi⟩
  simp only [Bool.and_eq_true, decide_eq_true_eq, beq_iff_eq] at hai hbi
  refine Classical.byContradiction fun hne => ?_
  exact hone.forall ha hb hne i hai.1 hbi.1 (hai.2.trans hbi.2.symm)

/-- A model has the same profiles. -/
theorem Reordered.claimedProfiles (h : s.Reordered impls) (hone : s.ProfiledOnce) (i : Nat) (m : Model) :
    (s.withImpls impls).claimedProfiles (s.withImpls impls).profileClaims i m =
      s.claimedProfiles s.profileClaims i m := by
  rw [SourceSet.claimedProfiles, SourceSet.claimedProfiles, h.profileOf]
  refine List.filterMap_congr fun d _ => ?_
  -- Where there is only one profile, the first one found is the same in any order.
  rw [List.find?_eq_find?_of_perm h.profileClaims.symm (hone.unique i d)]
  rfl

theorem Reordered.discover_models (h : s.Reordered impls) (hone : s.ProfiledOnce) :
    ((s.withImpls impls).discover policy).models = (s.discover policy).models := by
  have hprofiles (i : Nat) (m : Model) :
      (s.withImpls impls).profilesAt policy i m = s.profilesAt policy i m :=
    congrArg (fun claimed => (policy.complete m claimed).1) (h.claimedProfiles hone i m)
  rw [SourceSet.discover_models, SourceSet.discover_models, sortedModels, sortedModels, h.models]
  simp only [hprofiles]

/-! ## What is wrong -/

/-- Profiles that are for other structs or dialects do not matter for what is wrong with a profile. -/
theorem profileProblem?_of_apart {models : List (Nat × Model)} {before : List ProfileClaim}
    {c : ProfileClaim} (h : ∀ b ∈ before, ∀ i, b.place? s = some i → c.place? s = some i →
      b.dialect ≠ c.dialect) : s.profileProblem? models before c = s.profileProblem? models [] c := by
  rw [profileProblem?, profileProblem?]
  cases hplace : c.place? s with
  | none => rfl
  | some i =>
    have hnone : (before.reverse.find? fun b => b.place? s = some i && b.dialect == c.dialect) = none := by
      refine List.find?_eq_none.2 fun b hb => ?_
      simpa using fun hbi => h b (List.mem_reverse.1 hb) i hbi hplace
    simp only [Option.bind_eq_bind, Option.bind_some, hnone]
    rfl

/-- Where no struct has two profiles in one dialect, something is wrong with a profile only by itself. -/
theorem profileDiagnostics_of_apart {models : List (Nat × Model)} {before cs : List ProfileClaim}
    (h : s.Apart (before.reverse ++ cs)) :
    profileDiagnostics s models before cs = cs.filterMap (s.profileProblem? models []) := by
  induction cs generalizing before with
  | nil => rfl
  | cons c cs ih =>
    have hbefore := (List.pairwise_append.1 h).2.2
    have hrest : s.Apart ((c :: before).reverse ++ cs) := by
      rwa [List.reverse_cons, List.append_assoc]
    rw [profileDiagnostics_cons, ih hrest, profileProblem?_of_apart fun b hb =>
      hbefore b (List.mem_reverse.2 hb) c List.mem_cons_self, List.filterMap_cons]
    cases s.profileProblem? models [] c <;> rfl

theorem ProfiledOnce.profileDiagnostics (hone : s.ProfiledOnce) (models : List (Nat × Model)) :
    profileDiagnostics s models [] s.profileClaims =
      s.profileClaims.filterMap (s.profileProblem? models []) :=
  profileDiagnostics_of_apart hone

theorem Reordered.profiledOnce (h : s.Reordered impls) (hone : s.ProfiledOnce) :
    (s.withImpls impls).ProfiledOnce :=
  (h.profileClaims.pairwise_iff fun hab i hb ha => (hab i ha hb).symm).2 hone

theorem Reordered.profileDiagnostics_perm (h : s.Reordered impls) (hone : s.ProfiledOnce)
    (models : List (Nat × Model)) :
    (profileDiagnostics (s.withImpls impls) models [] (s.withImpls impls).profileClaims).Perm
      (profileDiagnostics s models [] s.profileClaims) := by
  rw [(h.profiledOnce hone).profileDiagnostics, hone.profileDiagnostics]
  exact h.profileClaims.filterMap _

theorem Reordered.discover_diagnostics_perm (h : s.Reordered impls) (hone : s.ProfiledOnce) :
    ((s.withImpls impls).discover policy).diagnostics.Perm (s.discover policy).diagnostics := by
  rw [discover_diagnostics, discover_diagnostics, h.modelsOf, h.models]
  simp only [h.claimedProfiles hone]
  exact (((h.claims.filterMap _).append_right _).append (h.profileDiagnostics_perm hone _)).append_right _

/-- The same is wrong, in another order. -/
theorem Reordered.diagnosed_perm (h : s.Reordered impls) (hone : s.ProfiledOnce) :
    ((s.withImpls impls).diagnosed policy).Perm (s.diagnosed policy) := by
  rw [diagnosed, diagnosed, h.discover_models hone]
  exact (h.discover_diagnostics_perm hone).append_right _

/-! ## What is generated -/

/-- In which order it is told what is wrong does not matter for the code of a model. -/
theorem unit?_of_perm (m : DiscoveredModel) (enums : List EnumModel) (symbols : SymbolTable)
    {ds ds' : List Diagnostic} (h : ds'.Perm ds) : m.unit? enums symbols ds' = m.unit? enums symbols ds := by
  have hopen (a : AnalysedModel) : a.openTables ds' = a.openTables ds := by
    simp only [AnalysedModel.openTables, h.any_eq]
  have hemitted : (·.emitted? ds') = fun a : AnalysedModel => a.emitted? ds := by
    funext a
    rw [AnalysedModel.emitted?, AnalysedModel.emitted?, hopen]
  rw [DiscoveredModel.unit?, DiscoveredModel.unit?, hemitted]

theorem Reordered.units (h : s.Reordered impls) (hone : s.ProfiledOnce) :
    (s.withImpls impls).units policy = s.units policy := by
  rw [SourceSet.units, SourceSet.units, h.discover_models hone]
  exact List.filterMap_congr fun m _ => unit?_of_perm m _ _ (h.diagnosed_perm hone)

/-- The capability that is found for a struct is one that is asked for, and none that is asked for is
stronger. -/
theorem strongest_capabilityAt? {i : Nat} {c : Capability} (h : s.capabilityAt? i = some c) :
    s.asksFor i c = true ∧ ∀ c', s.asksFor i c' = true → c'.rank ≤ c.rank := by
  refine ⟨List.find?_some h, fun c' hc' => ?_⟩
  rw [capabilityAt?] at h
  cases hbulk : s.asksFor i .bulk <;> cases c <;> cases c' <;>
    simp_all [List.find?_cons, Capability.rank]

end SourceSet

/-- Results of two runs that differ at most in the order in which they tell what is wrong. -/
structure Generation.SameUpToOrder (g g' : Generation) : Prop where
  code : g'.code = g.code
  models : g'.models = g.models
  diagnostics : g'.diagnostics.Perm g.diagnostics

/-- Two runs fail over the same name or give the same, up to the order of what is wrong. -/
inductive SameRun : Except String Generation → Except String Generation → Prop where
  | error (name : String) : SameRun (.error name) (.error name)
  | ok {g g' : Generation} (h : g.SameUpToOrder g') : SameRun (.ok g) (.ok g')

namespace SourceSet

/-- An entry of a run is for a struct of its name and path, with the strongest capability that an
implementation asks for. -/
def HasStrongest (s : SourceSet) (e : GeneratedModel) : Prop :=
  ∃ i a, s.structs[i]? = some a ∧ e.name = a.item.name ∧ e.path = rootedPath a.module a.item.name ∧
    s.asksFor i e.capability = true ∧ ∀ c, s.asksFor i c = true → c.rank ≤ e.capability.rank

theorem hasStrongest_of_generate {s : SourceSet} {policy : Policy} {g : Generation}
    (h : s.generate policy = .ok g) : ∀ e ∈ g.models, s.HasStrongest e := by
  have hmodel {m : DiscoveredModel} (hm : m ∈ (s.discover policy).models) {e : GeneratedModel}
      (hname : e.name = m.model.name) (hpath : e.path = m.model.path)
      (hcapability : e.capability = m.model.capability) : s.HasStrongest e := by
    obtain ⟨i, hi⟩ := mem_discovered_iff.1 hm
    obtain ⟨a, c, ha, hc, hstruct⟩ := exists_struct_of_discoveredAt? hi
    obtain ⟨hn, hmodule, hcap, -⟩ := Model.ofStruct_eq_ok hstruct
    refine ⟨i, a, ha, hname.trans hn, by rw [hpath, Model.path, hmodule, hn], ?_⟩
    rw [hcapability, hcap]
    exact strongest_capabilityAt? hc
  intro e he
  obtain ⟨m, hm, -, -, rfl⟩ | ⟨m, meanings, p, t, hconfigures, -, rfl⟩ := (mem_models_iff h).1 he
  · exact hmodel hm rfl rfl rfl
  · exact hmodel hconfigures.discovered rfl rfl rfl

/-- The order of implementations does not matter for a run, but for those beside the profiles of one type,
if no struct has two profiles in one dialect. Each model has the strongest of its capabilities. -/
theorem order_irrelevant (s : SourceSet) (policy : Policy) (impls : List (Located Source.ImplItem))
    (h : s.Reordered impls) (hone : s.ProfiledOnce) :
    SameRun (s.generate policy) ((s.withImpls impls).generate policy) ∧
      ∀ g, s.generate policy = .ok g → ∀ e ∈ g.models, s.HasStrongest e := by
  refine ⟨?_, fun g hg => hasStrongest_of_generate hg⟩
  rw [generate_eq, generate_eq, h.units hone]
  cases (emittedNames (s.units policy)).find? (!Code.isName ·) with
  | some name => exact .error name
  | none =>
    have hsorted : (Diagnostic.sorted ((s.withImpls impls).diagnosed policy)).Perm
        (Diagnostic.sorted (s.diagnosed policy)) :=
      (List.mergeSort_perm _ _).trans ((h.diagnosed_perm hone).trans (List.mergeSort_perm _ _).symm)
    exact .ok ⟨rfl, rfl, hsorted⟩

end SourceSet

/-! ## Halls -/

/-- A function that gives the floor of a hall a column of a name. -/
def namesFloor (column : String) : Source.Method :=
  let floor : Source.Expr := .reference (.field (.path ["h"] default) "floor" default) default
  let rule : Source.Expr := .methodCall (.path ["b"] default) "rule_for"
    [.closure ["h"] floor default] default
  ⟨[], .methodCall rule "column" [.literal (.text column) default] default⟩

/-- What makes halls a model, twice, with profiles for both dialects by one type. -/
def hallTraits : List (Located Source.ImplItem) :=
  [.traitImpl "house" "DomainModel" [] "Hall" [], .traitImpl "house" "BulkModel" [] "Hall" [],
    .traitImpl "house" "PostgresProfile" ["Hall"] "Storage" [],
    .traitImpl "house" "SqlServerProfile" ["Hall"] "Storage" []]

/-- Two implementations beside the profiles, of which the last one counts. -/
def hallStorage : List (Located Source.ImplItem) :=
  ["storey", "level"].map fun column =>
    ⟨⟨none, .ofName "Storage", default, [namesFloor column]⟩, ["house"], "src/house.rs"⟩

/-- Halls of a house. -/
def halls : SourceSet :=
  ⟨[.publicStruct "house" "Hall" [("id", "i64"), ("floor", "i32")]], [], hallTraits ++ hallStorage, ⟨[]⟩, []⟩

/-- Their implementations from the last to the first, but for those beside the profiles, which come before
all others. -/
theorem reordered_halls : halls.Reordered (hallStorage ++ hallTraits.reverse) where
  perm := (List.Perm.append_left _ (List.reverse_perm _)).trans List.perm_append_comm
  beside name := by
    have htraits : ∀ i ∈ hallTraits, ¬i.isBeside name = true := by
      simp [hallTraits, Located.traitImpl, Located.isBeside]
    have hnone : hallTraits.filter (·.isBeside name) = [] := List.filter_eq_nil_iff.2 htraits
    rw [halls, List.filter_append, List.filter_append, List.filter_reverse, hnone]
    simp

theorem profiledOnce_halls : halls.ProfiledOnce := by
  have hdialects : (halls.profileClaims.map (·.dialect)).Nodup := by decide
  exact (List.pairwise_map.1 hdialects).imp fun hne _ _ _ => hne

/-- Halls are bulk models, with a profile for each dialect and two functions beside it; and runs on the
implementations in both orders succeed and give the same. -/
theorem order_irrelevant_halls :
    (halls.discover .standard).models.map (fun m => (m.model.capability, m.profiles.map (·.bodies.length))) =
      [(.bulk, [2, 2])] ∧
    ∃ g g', halls.generate .standard = .ok g ∧
      (halls.withImpls (hallStorage ++ hallTraits.reverse)).generate .standard = .ok g' ∧
      g.SameUpToOrder g' ∧ ∀ e ∈ g.models, halls.HasStrongest e := by
  have hwords : halls.WordNames := ⟨by decide +kernel, by decide +kernel, by decide +kernel, by decide +kernel⟩
  obtain ⟨g, hg⟩ := hwords.exists_generate
  obtain ⟨hsame, hstrongest⟩ := halls.order_irrelevant .standard _ reordered_halls profiledOnce_halls
  rw [hg] at hsame
  generalize hrun : (halls.withImpls (hallStorage ++ hallTraits.reverse)).generate .standard = run at hsame
  cases hsame with
  | ok h => exact ⟨by decide +kernel, g, _, hg, rfl, h, hstrongest g hg⟩

end Tablewright
