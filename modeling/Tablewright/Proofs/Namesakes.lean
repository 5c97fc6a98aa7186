import Tablewright.Proofs.CompleteRuns

/-!
# Namesakes

Errors are told apart by the name of their model, without its module. So a table with whose model and
profile nothing is wrong is shown, unless an error is about another declaration of the same name.

## Key results

- `shown_iff_namesakes`: what keeps back a table that is not itself a cause of errors
- `not_shown_beside_namesake`: the table of such a model can be missing
-/

namespace Tablewright.SourceSet

variable {s : SourceSet} {policy : Policy}

/-- The profiles of a model are claimed, or are the default ones. -/
theorem mem_profilesAt {i : Nat} {m : Model} {p : Profile} (h : p ∈ s.profilesAt policy i m) :
    p ∈ s.claimedProfiles (s.impls.filterMap ProfileClaim.of?) i m ∨
      s.claimedProfiles (s.impls.filterMap ProfileClaim.of?) i m = [] ∧ p = .default m p.dialect := by
  rw [profilesAt, Policy.complete] at h
  cases hclaimed : s.claimedProfiles (s.impls.filterMap ProfileClaim.of?) i m with
  | cons c cs =>
    rw [hclaimed] at h
    exact .inl h
  | nil =>
    rw [hclaimed] at h
    split at h
    · cases h
    · split at h
      · cases h
      · obtain ⟨d, -, rfl⟩ := List.mem_map.1 h
        exact .inr ⟨rfl, rfl⟩

/-- A model has only one profile for a dialect. -/
theorem profile_unique {i : Nat} {m : Model} {p q : Profile} (hp : p ∈ s.profilesAt policy i m)
    (hq : q ∈ s.profilesAt policy i m) (hdialect : q.dialect = p.dialect) : q = p := by
  have hclaim {c : Profile} (hc : c ∈ s.claimedProfiles (s.impls.filterMap ProfileClaim.of?) i m) :
      ((s.impls.filterMap ProfileClaim.of?).find? fun claim =>
        claim.place? s = some i && claim.dialect == c.dialect).map (s.profileOf m) = some c := by
    obtain ⟨d, -, hd⟩ := List.mem_filterMap.1 hc
    obtain ⟨claim, hfind, rfl⟩ := Option.map_eq_some_iff.1 hd
    have hclaim := List.find?_some hfind
    simp only [Bool.and_eq_true, beq_iff_eq] at hclaim
    have hd : (s.profileOf m claim).dialect = d := hclaim.2
    rw [hd, hfind]
    rfl
  rcases mem_profilesAt hp with hp | ⟨hnone, hp⟩ <;> rcases mem_profilesAt hq with hq | ⟨hnone', hq⟩
  -- Of two claimed profiles, both are the first one claimed for the dialect.
  · have hsame := hclaim hq
    rw [hdialect, hclaim hp] at hsame
    exact (Option.some.inj hsame).symm
  · rw [hnone'] at hp
    cases hp
  · rw [hnone] at hq
    cases hq
  · rw [hp, hq, hdialect]

end SourceSet

/-- What is wrong with a model and its profiles is about the model's name. -/
theorem DiscoveredModel.model_of_mem_analyse {m : DiscoveredModel} {enums : List EnumModel}
    {symbols : SymbolTable} {e : Diagnostic} (h : e ∈ (m.analyse enums symbols).2) :
    e.model = m.model.name := by
  by_cases hmeans : ∃ meanings, m.model.Means enums meanings
  · obtain ⟨meanings, hmeans⟩ := hmeans
    rw [analyse_of_means hmeans] at h
    obtain ⟨p, -, he⟩ := List.mem_flatMap.1 h
    exact (Profile.subject_of_mem_problems he).1
  · rw [analyse_of_unsupported (not_exists.1 hmeans)] at h
    obtain ⟨q, -, reason, -, rfl⟩ := Model.mem_unsupported.1 h
    rfl

namespace SourceSet

variable {s : SourceSet} {policy : Policy} {g : Generation}

/-- A model whose profile for a dialect causes no error causes none that concerns the dialect. -/
theorem not_concerns_of_own {m : DiscoveredModel} (hm : m ∈ (s.discover policy).models)
    {meanings : List Meaning} (hmeans : m.model.Means (s.discover policy).enums meanings) {p : Profile}
    (hp : p ∈ m.profiles) (hclean : ∀ e ∈ p.problems m.model meanings s.symbols, e.isError = false) :
    ∀ e ∈ (m.analyse (s.discover policy).enums s.symbols).2, ¬e.Concerns m.model.name p.dialect := by
  rintro e he ⟨herror, -, hdialect⟩
  rw [DiscoveredModel.analyse_of_means hmeans] at he
  obtain ⟨q, hq, he⟩ := List.mem_flatMap.1 he
  have hq : q ∈ m.profiles := by
    rw [DiscoveredModel.tableProfiles] at hq
    split at hq
    · exact hq
    · cases hq
  have hsubject := (Profile.subject_of_mem_problems he).2
  have hsame : q.dialect = p.dialect := by simpa [hsubject] using hdialect
  obtain ⟨i, hi⟩ := mem_discovered_iff.1 hm
  obtain ⟨model, -, rfl⟩ := Option.map_eq_some_iff.1 hi
  rw [profile_unique hp hq hsame] at he
  exact absurd herror (by simp [hclean e he])

/-- A profile that causes no error has its table shown just if discovery finds no error of the model's
name, and no other model of that name causes one, each in the dialect of the profile or in all. -/
theorem shown_iff_namesakes (h : s.generate policy = .ok g) {m : DiscoveredModel}
    (hm : m ∈ (s.discover policy).models) (htable : m.model.capability.hasTable = true)
    {meanings : List Meaning} (hmeans : m.model.Means (s.discover policy).enums meanings) {p : Profile}
    (hp : p ∈ m.profiles) (hclean : ∀ e ∈ p.problems m.model meanings s.symbols, e.isError = false) :
    (∃ t, s.Configures policy m meanings p t ∧ m.model.generatedTable t ∈ g.models) ↔
      (∀ e ∈ (s.discover policy).diagnostics, ¬e.Concerns m.model.name p.dialect) ∧
      ∀ m' ∈ (s.discover policy).models, m' ≠ m → m'.model.name = m.model.name →
        ∀ e ∈ (m'.analyse (s.discover policy).enums s.symbols).2,
          ¬e.Concerns m.model.name p.dialect := by
  constructor
  · rintro ⟨t, ht, he⟩
    have hquiet : ∀ e ∈ s.diagnosed policy, ¬e.Concerns m.model.name p.dialect := by
      intro e htold
      -- An entry does not say which model it is of, but its name and dialect are all that matters.
      rcases (mem_models_iff h).1 he with ⟨m', -, -, -, hentry⟩ | ⟨m', _, p', t', ht', hopen, hentry⟩
      · cases congrArg GeneratedModel.dialect hentry
      · have hname : m.model.name = m'.model.name := congrArg GeneratedModel.name hentry
        have hdialect : t.dialect = t'.dialect :=
          Option.some.inj (congrArg GeneratedModel.dialect hentry)
        rw [Profile.dialect_of_table? ht.table, Profile.dialect_of_table? ht'.table] at hdialect
        rw [hname, hdialect]
        exact Diagnostic.blocks_eq_false_iff.1 (hopen e ((mem_diagnostics_iff h).2 htold))
    exact ⟨fun e he => hquiet e (List.mem_append_left _ he),
      fun m' hm' _ _ e he => hquiet e (analyse_subset_diagnosed hm' he)⟩
  · rintro ⟨hdiscovery, hothers⟩
    refine exists_table_of_isQuiet h hm htable hmeans hp fun e he => ?_
    rcases List.mem_append.1 ((mem_diagnostics_iff h).1 he) with he | he
    · exact hdiscovery e he
    · obtain ⟨m', hm', he⟩ := List.mem_flatMap.1 he
      by_cases hsame : m' = m
      · exact not_concerns_of_own hm hmeans hp hclean e (hsame ▸ he)
      · intro hconcerns
        have hname := (DiscoveredModel.model_of_mem_analyse he).symm.trans hconcerns.2.1
        exact hothers m' hm' hsame hname e he hconcerns

end SourceSet

/-! ## Two structs of one name -/

/-- Items in two modules, each with a profile; those of the second have a number that no column can
hold. -/
def namesakes : SourceSet :=
  ⟨[.publicStruct "a" "Item" [("id", "i64")],
      .publicStruct "b" "Item" [("id", "i64"), ("big", "u64")]],
    [],
    ["a", "b"].flatMap fun module =>
      [.traitImpl module "BulkModel" [] "Item" [],
        .traitImpl module "PostgresProfile" ["Item"] "Storage" []],
    ⟨[]⟩, []⟩

/-- Nothing is wrong with the first items and their only profile. -/
theorem exists_item : ∃ m ∈ (namesakes.discover .standard).models,
    m.model.capability.hasTable = true ∧ ∃ meanings,
      m.model.Means (namesakes.discover .standard).enums meanings ∧
        ∃ p ∈ m.profiles, ∀ e ∈ p.problems m.model meanings namesakes.symbols, e.isError = false := by
  have hitem : ((namesakes.discover .standard).models.any fun m =>
      m.model.capability.hasTable &&
        ((m.model.meanings (namesakes.discover .standard).enums).mapM Except.toOption).any
          fun meanings => m.profiles.any fun p =>
            (p.problems m.model meanings namesakes.symbols).all (!·.isError)) = true := by cbv
  obtain ⟨m, hm, h⟩ := List.any_eq_true.1 hitem
  obtain ⟨htable, h⟩ := Bool.and_eq_true_iff.1 h
  obtain ⟨meanings, hmeanings, h⟩ := (Option.any_eq_true _ _).1 h
  obtain ⟨p, hp, hclean⟩ := List.any_eq_true.1 h
  exact ⟨m, hm, htable, meanings, Model.meanings_mapM_eq_some_iff.1 hmeanings, p, hp,
    fun e he => by simpa using List.all_eq_true.1 hclean e he⟩

/-- The run on the namesakes succeeds. -/
theorem exists_generate_namesakes : ∃ g, namesakes.generate .standard = .ok g := by
  have hnames : (emittedNames (namesakes.units .standard)).all Code.isName = true := by cbv
  exact SourceSet.exists_generate_iff.2 (List.all_eq_true.1 hnames)

/-- Whether the table of an item is shown depends on the other items. -/
theorem shown_iff_namesakes_items : ∃ g m meanings p,
    namesakes.generate .standard = .ok g ∧
      m ∈ (namesakes.discover .standard).models ∧ m.model.capability.hasTable = true ∧
      m.model.Means (namesakes.discover .standard).enums meanings ∧ p ∈ m.profiles ∧
      (∀ e ∈ p.problems m.model meanings namesakes.symbols, e.isError = false) ∧
      ((∃ t, namesakes.Configures .standard m meanings p t ∧
        m.model.generatedTable t ∈ g.models) ↔
      (∀ e ∈ (namesakes.discover .standard).diagnostics,
        ¬e.Concerns m.model.name p.dialect) ∧
      ∀ m' ∈ (namesakes.discover .standard).models, m' ≠ m → m'.model.name = m.model.name →
        ∀ e ∈ (m'.analyse (namesakes.discover .standard).enums namesakes.symbols).2,
          ¬e.Concerns m.model.name p.dialect) := by
  obtain ⟨g, h⟩ := exists_generate_namesakes
  obtain ⟨m, hm, htable, meanings, hmeans, p, hp, hclean⟩ := exists_item
  exact ⟨g, m, meanings, p, h, hm, htable, hmeans, hp, hclean,
    SourceSet.shown_iff_namesakes h hm htable hmeans hp hclean⟩

/-- Models and profiles with which nothing is wrong need not have their tables shown. -/
theorem not_shown_beside_namesake :
    ¬∀ (s : SourceSet) (policy : Policy) (g : Generation), s.generate policy = .ok g →
      ∀ m ∈ (s.discover policy).models, m.model.capability.hasTable = true →
        ∀ meanings, m.model.Means (s.discover policy).enums meanings → ∀ p ∈ m.profiles,
          (∀ e ∈ p.problems m.model meanings s.symbols, e.isError = false) →
          (∀ e ∈ (s.discover policy).diagnostics, e.kind = .duplicateProfile →
            e.model ≠ m.model.name) →
          ∃ e ∈ g.models, e.path = m.model.path ∧ e.dialect = some p.dialect := by
  intro hall
  obtain ⟨g, h⟩ := exists_generate_namesakes
  obtain ⟨m, hm, htable, meanings, hmeans, p, hp, hclean⟩ := exists_item
  have hquiet : (namesakes.discover .standard).diagnostics = [] :=
    List.isEmpty_iff.1 (by cbv)
  have hunits : namesakes.units .standard = [] := List.isEmpty_iff.1 (by cbv)
  have hmodels : g.models = [] := by
    rw [SourceSet.generate_eq, hunits] at h
    exact Except.ok.inj h ▸ rfl
  obtain ⟨e, he, -⟩ := hall namesakes _ g h m hm htable meanings hmeans p hp hclean
    fun e he => absurd (hquiet ▸ he) List.not_mem_nil
  rw [hmodels] at he
  cases he

end Tablewright
