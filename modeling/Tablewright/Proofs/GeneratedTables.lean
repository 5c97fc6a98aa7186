import Mathlib
import Tablewright.Generate.Generation
import Tablewright.Proofs.WellConfigured

/-!
# Generated tables

What a run of the generator has to show for a model: rows alone if it asks for no more, a table for each
profile that no error keeps from it, and nothing if one of its properties has a type that no column can
hold. A table that no error keeps back has a type for every column.

## Key results

- `mem_models_iff`: what the models of a run are
- `DiscoveredModel.entries_generated`: one entry for each profile that no error is about
- `Configures.configured`, `Configures.keys_ne_nil`: what holds of a table that was generated
-/

namespace Tablewright

/-- Going through a list succeeds just if it does at each place. -/
theorem mapM_eq_some_iff {α β : Type} {f : α → Option β} {xs : List α} {ys : List β} :
    xs.mapM f = some ys ↔ List.Forall₂ (fun x y => f x = some y) xs ys := by
  induction xs generalizing ys with
  | nil => cases ys <;> simp
  | cons x xs ih =>
    rw [List.mapM_cons]
    cases hx : f x with
    | none => cases ys <;> simp [hx]
    | some y =>
      cases hxs : xs.mapM f with
      | none => cases ys <;> simp [hx, ← ih, hxs]
      | some rest => cases ys <;> simp [hx, ← ih, hxs]

/-- A list has a related one just if each of its elements has a related element. -/
theorem exists_forall₂_iff {α β : Type} {R : α → β → Prop} {xs : List α} :
    (∃ ys, List.Forall₂ R xs ys) ↔ ∀ x ∈ xs, ∃ y, R x y := by
  induction xs with
  | nil => exact ⟨fun _ _ hx => absurd hx List.not_mem_nil, fun _ => ⟨[], .nil⟩⟩
  | cons x xs ih =>
    rw [List.forall_mem_cons, ← ih]
    constructor
    · rintro ⟨_, h⟩
      cases h with
      | cons hx hxs => exact ⟨⟨_, hx⟩, _, hxs⟩
    · rintro ⟨⟨y, hx⟩, ys, hxs⟩
      exact ⟨y :: ys, .cons hx hxs⟩

theorem exists_mem_of_forall₂ {α β : Type} {R : α → β → Prop} {xs : List α} {ys : List β}
    (h : List.Forall₂ R xs ys) {x : α} (hx : x ∈ xs) : ∃ y ∈ ys, R x y := by
  induction h with
  | nil => cases hx
  | cons hxy _ ih =>
    rcases List.mem_cons.1 hx with rfl | hx
    · exact ⟨_, List.mem_cons_self, hxy⟩
    · obtain ⟨y, hy, hxy⟩ := ih hx
      exact ⟨y, List.mem_cons_of_mem _ hy, hxy⟩

/-! ## Meanings -/

/-- The types of a model's properties have the given meanings. -/
def Model.Means (m : Model) (enums : List EnumModel) (meanings : List Meaning) : Prop :=
  List.Forall₂ (fun q meaning => Meaning.ofType enums q.inner = .ok meaning) m.properties meanings

/-- What is wrong with the types of a model's properties. -/
def Model.unsupported (m : Model) (enums : List EnumModel) : List Diagnostic :=
  (m.meanings enums).filterMap fun
    | .error d => some d
    | .ok _ => none

namespace Model

variable {m : Model} {enums : List EnumModel} {meanings : List Meaning}

theorem meanings_mapM_eq_some_iff :
    (m.meanings enums).mapM Except.toOption = some meanings ↔ m.Means enums meanings := by
  rw [Model.meanings, List.mapM_map, mapM_eq_some_iff, Means]
  have hread (q : Property) (meaning : Meaning) :
      (Except.toOption ∘ fun p : Property => (Meaning.ofType enums p.inner).mapError fun reason =>
        (⟨.unsupportedType reason, m.name, some p.name, none, p.location⟩ : Diagnostic)) q =
          some meaning ↔ Meaning.ofType enums q.inner = .ok meaning := by
    cases h : Meaning.ofType enums q.inner <;> simp [h, Except.mapError, Except.toOption]
  simp only [hread]

theorem mem_unsupported {e : Diagnostic} : e ∈ m.unsupported enums ↔
    ∃ q ∈ m.properties, ∃ reason, Meaning.ofType enums q.inner = .error reason ∧
      e = ⟨.unsupportedType reason, m.name, some q.name, none, q.location⟩ := by
  rw [unsupported, Model.meanings, List.filterMap_map, List.mem_filterMap]
  refine exists_congr fun q => and_congr_right fun _ => ?_
  cases h : Meaning.ofType enums q.inner <;> simp [h, Except.mapError, eq_comm]

/-- The properties all have a meaning just if nothing is wrong with their types. -/
theorem exists_means_iff : (∃ meanings, m.Means enums meanings) ↔ m.unsupported enums = [] := by
  rw [List.eq_nil_iff_forall_not_mem]
  refine exists_forall₂_iff.trans ⟨fun h e he => ?_, fun h q hq => ?_⟩
  · obtain ⟨q, hq, reason, hreason, -⟩ := mem_unsupported.1 he
    obtain ⟨meaning, hmeaning⟩ := h q hq
    cases hreason.symm.trans hmeaning
  · cases hread : Meaning.ofType enums q.inner with
    | ok meaning => exact ⟨meaning, rfl⟩
    | error reason => exact absurd (mem_unsupported.2 ⟨q, hq, reason, hread, rfl⟩) (h _)

end Model

/-! ## Profiles -/

namespace Profile

variable (p : Profile) (m : Model) (meanings : List Meaning) (symbols : SymbolTable)

/-- A model with the settings of the profile. -/
def resolve : ResolvedModel := m.resolve meanings (p.settings m symbols) p.dialect

/-- What is wrong with the calls of the profile, and with what they lead to. -/
def problems : List Diagnostic :=
  (p.settings m symbols).diagnostics ++ (p.resolve m meanings symbols).validate m

variable {p m meanings symbols}

/-- What is wrong with a profile is about its model and its dialect. -/
theorem subject_of_mem_problems {e : Diagnostic} (h : e ∈ p.problems m meanings symbols) :
    e.model = m.name ∧ e.dialect = some p.dialect := by
  rcases List.mem_append.1 h with h | h
  · obtain ⟨complaint, -, rfl⟩ := List.mem_map.1 h
    exact ⟨rfl, rfl⟩
  · rcases ResolvedModel.mem_validate.1 h with ⟨q, -, problem, -, rfl⟩ | ⟨-, problem, -, rfl⟩ <;>
      exact ⟨rfl, rfl⟩

/-- Where nothing keeps the table of a profile back, the profile is no cause of an error. -/
theorem isError_of_open {diagnostics : List Diagnostic}
    (hknown : p.problems m meanings symbols ⊆ diagnostics)
    (hopen : ∀ e ∈ diagnostics, e.blocks m.name p.dialect = false) :
    ∀ e ∈ p.problems m meanings symbols, e.isError = false := by
  intro e he
  obtain ⟨hmodel, hdialect⟩ := subject_of_mem_problems he
  simpa [Diagnostic.blocks, hmodel, hdialect] using hopen e (hknown he)

/-- Where the profile is no cause of an error, the properties are well configured, and there is a key if
there has to be one. -/
theorem configured_of_problems (h : ∀ e ∈ p.problems m meanings symbols, e.isError = false) :
    (∀ q ∈ (p.resolve m meanings symbols).properties,
      q.Configured p.dialect (p.resolve m meanings symbols).identity) ∧
        (m.capability.hasTable = true → (p.resolve m meanings symbols).keys ≠ []) :=
  (ResolvedModel.forall_validate_iff fun _ hq => Model.defaulted_resolve hq).1
    fun e he => h e (List.mem_append_right _ he)

/-- A profile that is no cause of an error has a type for every column. -/
theorem table?_ne_none (h : ∀ e ∈ p.problems m meanings symbols, e.isError = false) :
    ∃ t, (p.resolve m meanings symbols).table? = some t := by
  obtain ⟨columns, hcolumns⟩ := exists_forall₂_iff.2 fun q hq =>
    (((configured_of_problems h).1 q hq).column.imp fun _ hc => hc.1)
  exact ⟨_, by rw [ResolvedModel.table?, mapM_eq_some_iff.2 hcolumns]; rfl⟩

/-- The table of a profile is in the profile's dialect. -/
theorem dialect_of_table? {t : Table} (h : (p.resolve m meanings symbols).table? = some t) :
    t.dialect = p.dialect := by
  obtain ⟨columns, -, rfl⟩ := Option.map_eq_some_iff.1 h
  rfl

end Profile

/-! ## Entries -/

namespace Model

variable (m : Model)

/-- What a run shows for a table of the model. -/
def generatedTable (t : Table) : GeneratedModel :=
  ⟨m.name, m.path, m.capability, some t.dialect, some t.texts⟩

/-- What a run shows for a model of which only rows are read. -/
def generatedRows : GeneratedModel := ⟨m.name, m.path, m.capability, none, none⟩

end Model

namespace DiscoveredModel

variable (m : DiscoveredModel) (enums : List EnumModel) (symbols : SymbolTable)
  (diagnostics : List Diagnostic)

/-- The profiles for which there could be a table. -/
def tableProfiles : List Profile := if m.model.capability.hasTable then m.profiles else []

/-- The code to be generated for the model, given all that is wrong anywhere. -/
def unit? : Option EmittedModel := (m.analyse enums symbols).1.bind (·.emitted? diagnostics)

/-- What a run shows for the model. -/
def generated : List GeneratedModel :=
  (m.unit? enums symbols diagnostics).toList.flatMap (·.generated)

/-- The profiles that no error keeps back. -/
def openProfiles : List Profile :=
  m.profiles.filter fun p => !diagnostics.any (·.blocks m.model.name p.dialect)

variable {m enums symbols diagnostics} {meanings : List Meaning}

theorem mem_openProfiles {p : Profile} : p ∈ m.openProfiles diagnostics ↔
    p ∈ m.profiles ∧ ∀ e ∈ diagnostics, e.blocks m.model.name p.dialect = false := by
  simp [openProfiles]

theorem analyse_of_means (h : m.model.Means enums meanings) :
    m.analyse enums symbols =
      (some ⟨m.model, meanings, m.tableProfiles.map (·.resolve m.model meanings symbols)⟩,
        m.tableProfiles.flatMap (·.problems m.model meanings symbols)) := by
  have hnone : m.model.unsupported enums = [] := Model.exists_means_iff.1 ⟨meanings, h⟩
  simp only [analyse, Model.meanings_mapM_eq_some_iff.2 h, List.map_map, List.flatMap_map]
  exact congrArg (Prod.mk _) (congrArg
    (· ++ m.tableProfiles.flatMap (·.problems m.model meanings symbols)) hnone)

theorem analyse_of_unsupported (h : ∀ meanings, ¬m.model.Means enums meanings) :
    m.analyse enums symbols = (none, m.model.unsupported enums) := by
  have hnone : (m.model.meanings enums).mapM Except.toOption = none :=
    Option.eq_none_iff_forall_ne_some.2 fun meanings hmeanings =>
      h meanings (Model.meanings_mapM_eq_some_iff.1 hmeanings)
  simp only [analyse, hnone]
  rfl

/-- Nothing is shown for a model with a property that means nothing. -/
theorem generated_of_unsupported (h : ∀ meanings, ¬m.model.Means enums meanings) :
    m.generated enums symbols diagnostics = [] := by
  rw [generated, unit?, analyse_of_unsupported h]
  rfl

/-- Of a model without a table, rows are read. -/
theorem generated_of_rows (h : m.model.Means enums meanings)
    (hrows : m.model.capability.hasTable = false) :
    m.generated enums symbols diagnostics = [m.model.generatedRows] := by
  rw [generated, unit?, analyse_of_means h]
  simp [AnalysedModel.emitted?, EmittedModel.generated, hrows, Model.generatedRows]

/-- The tables of a model that are not kept back: one for each profile that gives each column a type. -/
theorem openTables_eq (meanings : List Meaning) (htable : m.model.capability.hasTable = true) :
    (⟨m.model, meanings, m.tableProfiles.map (·.resolve m.model meanings symbols)⟩ :
      AnalysedModel).openTables diagnostics =
        (m.openProfiles diagnostics).filterMap fun p => (p.resolve m.model meanings symbols).table? := by
  simp only [AnalysedModel.openTables, tableProfiles, htable, if_true, List.filter_map,
    List.filterMap_map]
  rfl

/-- A model with tables has one for each profile that is not kept back and gives each column a type. -/
theorem generated_of_tables (h : m.model.Means enums meanings)
    (htable : m.model.capability.hasTable = true) :
    m.generated enums symbols diagnostics =
      (m.openProfiles diagnostics).filterMap fun p =>
        (p.resolve m.model meanings symbols).table?.map m.model.generatedTable := by
  have hentries (ts : List Table) :
      (if ts.isEmpty then none else some ⟨m.model, meanings, ts⟩ : Option EmittedModel).toList.flatMap
        (·.generated) = ts.map m.model.generatedTable := by
    cases ts with
    -- Without tables there is no unit, and a unit without tables would show nothing either.
    | nil => rfl
    | cons t ts =>
      simp only [List.isEmpty_cons, Bool.false_eq_true, if_false, Option.toList_some,
        List.flatMap_singleton, EmittedModel.generated, htable, if_true]
      rfl
  rw [generated, unit?, analyse_of_means h, Option.bind_some, AnalysedModel.emitted?,
    openTables_eq meanings htable]
  simp only [htable, if_true, Bool.true_and, hentries, List.map_filterMap]

/-- The code to be generated for a model is for its tables that are not kept back, if it has tables. -/
theorem eq_of_unit? {u : EmittedModel} (h : m.unit? enums symbols diagnostics = some u) :
    ∃ meanings, m.model.Means enums meanings ∧ u.model = m.model ∧ u.meanings = meanings ∧
      u.tables = if m.model.capability.hasTable then
          (m.openProfiles diagnostics).filterMap fun p => (p.resolve m.model meanings symbols).table?
        else [] := by
  by_cases hmeans : ∃ meanings, m.model.Means enums meanings
  · obtain ⟨meanings, hmeans⟩ := hmeans
    refine ⟨meanings, hmeans, ?_⟩
    rw [unit?, analyse_of_means hmeans, Option.bind_some, AnalysedModel.emitted?] at h
    cases htable : m.model.capability.hasTable with
    | false =>
      simp only [htable, Bool.false_eq_true, if_false, Bool.false_and, Option.some.injEq] at h
      subst h
      exact ⟨rfl, rfl, rfl⟩
    | true =>
      simp only [htable, if_true, Bool.true_and, openTables_eq meanings htable] at h
      split at h
      · cases h
      · obtain rfl := Option.some.inj h
        exact ⟨rfl, rfl, rfl⟩
  · rw [unit?, analyse_of_unsupported (not_exists.1 hmeans)] at h
    cases h

/-- What is shown for a model. -/
theorem mem_generated_iff {e : GeneratedModel} : e ∈ m.generated enums symbols diagnostics ↔
    ∃ meanings, m.model.Means enums meanings ∧
      (m.model.capability.hasTable = false ∧ e = m.model.generatedRows ∨
        m.model.capability.hasTable = true ∧ ∃ p ∈ m.openProfiles diagnostics, ∃ t,
          (p.resolve m.model meanings symbols).table? = some t ∧ e = m.model.generatedTable t) := by
  constructor
  · intro he
    by_cases hmeans : ∃ meanings, m.model.Means enums meanings
    · obtain ⟨meanings, h⟩ := hmeans
      refine ⟨meanings, h, ?_⟩
      cases htable : m.model.capability.hasTable with
      | false =>
        rw [generated_of_rows h htable] at he
        exact .inl ⟨rfl, List.mem_singleton.1 he⟩
      | true =>
        rw [generated_of_tables h htable] at he
        obtain ⟨p, hp, hentry⟩ := List.mem_filterMap.1 he
        obtain ⟨t, ht, rfl⟩ := Option.map_eq_some_iff.1 hentry
        exact .inr ⟨rfl, p, hp, t, ht, rfl⟩
    · rw [generated_of_unsupported (not_exists.1 hmeans)] at he
      cases he
  · rintro ⟨meanings, h, ⟨hrows, rfl⟩ | ⟨htable, p, hp, t, ht, rfl⟩⟩
    · rw [generated_of_rows h hrows]
      exact List.mem_singleton_self _
    · rw [generated_of_tables h htable]
      exact List.mem_filterMap.2 ⟨p, hp, by rw [ht]; rfl⟩

/-- One table is shown for each profile that no error is about, if what is wrong with the profiles is
all known. -/
theorem entries_generated (h : m.model.Means enums meanings)
    (htable : m.model.capability.hasTable = true)
    (hknown : ∀ p ∈ m.profiles, p.problems m.model meanings symbols ⊆ diagnostics) :
    (m.generated enums symbols diagnostics).map (fun e => (e.path, e.capability, e.dialect)) =
      (m.openProfiles diagnostics).map fun p =>
        (m.model.path, m.model.capability, some p.dialect) := by
  rw [generated_of_tables h htable, List.map_filterMap, ← List.filterMap_eq_map]
  refine List.filterMap_congr fun p hp => ?_
  obtain ⟨hprofile, hopen⟩ := mem_openProfiles.1 hp
  obtain ⟨t, ht⟩ := Profile.table?_ne_none (Profile.isError_of_open (hknown p hprofile) hopen)
  rw [ht, Function.comp_apply, ← Profile.dialect_of_table? ht]
  rfl

end DiscoveredModel

/-! ## Runs -/

namespace SourceSet

variable (s : SourceSet) (policy : Policy)

/-- All that is wrong: with the declarations, with the properties of models and with their profiles. -/
def diagnosed : List Diagnostic :=
  (s.discover policy).diagnostics ++ (s.discover policy).models.flatMap fun m =>
    (m.analyse (s.discover policy).enums s.symbols).2

/-- A table follows from a profile of a model and from the meanings of the model's properties. -/
structure Configures (m : DiscoveredModel) (meanings : List Meaning) (p : Profile) (t : Table) :
    Prop where
  discovered : m ∈ (s.discover policy).models
  hasTable : m.model.capability.hasTable = true
  profile : p ∈ m.profiles
  means : m.model.Means (s.discover policy).enums meanings
  table : (p.resolve m.model meanings s.symbols).table? = some t

/-- What code is generated for. -/
def units : List EmittedModel :=
  (s.discover policy).models.filterMap
    (·.unit? (s.discover policy).enums s.symbols (s.diagnosed policy))

variable {s policy} {g : Generation}

theorem generate_eq : s.generate policy =
    match (emittedNames (s.units policy)).find? (!Code.isName ·) with
    | some name => .error name
    | none => .ok ⟨emit (s.units policy), Diagnostic.sorted (s.diagnosed policy),
        (s.units policy).flatMap (·.generated)⟩ := by
  have hunits : s.units policy = (((s.discover policy).models.map
      (·.analyse (s.discover policy).enums s.symbols)).filterMap (·.1)).filterMap
        (·.emitted? (s.diagnosed policy)) := by
    rw [List.filterMap_map, List.filterMap_filterMap]
    rfl
  rw [hunits, generate]
  simp only [List.flatMap_map]
  rfl

/-- A run succeeds just if all names in its code can be names. -/
theorem exists_generate_iff : (∃ g, s.generate policy = .ok g) ↔
    ∀ name ∈ emittedNames (s.units policy), Code.isName name = true := by
  have hnone : (∀ name ∈ emittedNames (s.units policy), Code.isName name = true) ↔
      (emittedNames (s.units policy)).find? (!Code.isName ·) = none := by
    simp [List.find?_eq_none]
  rw [hnone, generate_eq]
  cases (emittedNames (s.units policy)).find? (!Code.isName ·) with
  | none => exact ⟨fun _ => rfl, fun _ => ⟨_, rfl⟩⟩
  | some name => exact ⟨nofun, nofun⟩

theorem models_of_generate (h : s.generate policy = .ok g) :
    g.models = (s.units policy).flatMap (·.generated) := by
  rw [generate_eq] at h
  split at h
  next => cases h
  next => exact Except.ok.inj h ▸ rfl

/-- A run that succeeds shows each table for which code is generated. -/
theorem generatedTable_mem_models (h : s.generate policy = .ok g) {u : EmittedModel}
    (hu : u ∈ s.units policy) (htable : u.model.capability.hasTable = true) {t : Table}
    (ht : t ∈ u.tables) : u.model.generatedTable t ∈ g.models := by
  rw [models_of_generate h]
  refine List.mem_flatMap.2 ⟨u, hu, ?_⟩
  rw [EmittedModel.generated, if_pos htable]
  exact List.mem_map_of_mem ht

/-- A run that succeeds shows what is generated for each model, and tells all that is wrong. -/
theorem eq_of_generate (h : s.generate policy = .ok g) :
    g.diagnostics = Diagnostic.sorted (s.diagnosed policy) ∧
      g.models = (s.discover policy).models.flatMap
        (·.generated (s.discover policy).enums s.symbols (s.diagnosed policy)) := by
  constructor
  · rw [generate_eq] at h
    split at h
    next => cases h
    next => exact Except.ok.inj h ▸ rfl
  · rw [models_of_generate h, units, List.filterMap_eq_flatMap_toList, List.flatMap_assoc]
    rfl

theorem mem_diagnostics_iff (h : s.generate policy = .ok g) {e : Diagnostic} :
    e ∈ g.diagnostics ↔ e ∈ s.diagnosed policy := by
  rw [(eq_of_generate h).1, Diagnostic.sorted, List.mem_mergeSort]

theorem analyse_subset_diagnosed {m : DiscoveredModel} (hm : m ∈ (s.discover policy).models) :
    (m.analyse (s.discover policy).enums s.symbols).2 ⊆ s.diagnosed policy :=
  fun _ he => List.mem_append_right _ (List.mem_flatMap.2 ⟨m, hm, he⟩)

/-- What is wrong with the profiles of a model that has tables is told. -/
theorem problems_subset_diagnosed {m : DiscoveredModel} {meanings : List Meaning} {p : Profile}
    (hm : m ∈ (s.discover policy).models) (htable : m.model.capability.hasTable = true)
    (hmeans : m.model.Means (s.discover policy).enums meanings) (hp : p ∈ m.profiles) :
    p.problems m.model meanings s.symbols ⊆ s.diagnosed policy := by
  refine fun e he => analyse_subset_diagnosed hm ?_
  rw [DiscoveredModel.analyse_of_means hmeans, DiscoveredModel.tableProfiles, if_pos htable]
  exact List.mem_flatMap.2 ⟨p, hp, he⟩

/-- What the models of a run are: those of which rows are read, and the tables that no error keeps
back. -/
theorem mem_models_iff (h : s.generate policy = .ok g) {e : GeneratedModel} : e ∈ g.models ↔
    (∃ m ∈ (s.discover policy).models, m.model.capability.hasTable = false ∧
      (∃ meanings, m.model.Means (s.discover policy).enums meanings) ∧ e = m.model.generatedRows) ∨
    ∃ m meanings p t, s.Configures policy m meanings p t ∧
      (∀ d ∈ g.diagnostics, d.blocks m.model.name p.dialect = false) ∧
        e = m.model.generatedTable t := by
  rw [(eq_of_generate h).2, List.mem_flatMap]
  simp only [mem_diagnostics_iff h]
  constructor
  · rintro ⟨m, hm, he⟩
    obtain ⟨meanings, hmeans, ⟨hrows, rfl⟩ | ⟨htable, p, hp, t, ht, rfl⟩⟩ :=
      DiscoveredModel.mem_generated_iff.1 he
    · exact .inl ⟨m, hm, hrows, ⟨meanings, hmeans⟩, rfl⟩
    · obtain ⟨hprofile, hopen⟩ := DiscoveredModel.mem_openProfiles.1 hp
      exact .inr ⟨m, meanings, p, t, ⟨hm, htable, hprofile, hmeans, ht⟩, hopen, rfl⟩
  · rintro (⟨m, hm, hrows, ⟨meanings, hmeans⟩, rfl⟩ | ⟨m, meanings, p, t, hc, hopen, rfl⟩)
    · exact ⟨m, hm, DiscoveredModel.mem_generated_iff.2 ⟨meanings, hmeans, .inl ⟨hrows, rfl⟩⟩⟩
    · exact ⟨m, hc.discovered, DiscoveredModel.mem_generated_iff.2 ⟨meanings, hc.means,
        .inr ⟨hc.hasTable, p, DiscoveredModel.mem_openProfiles.2 ⟨hc.profile, hopen⟩, t, hc.table, rfl⟩⟩⟩

/-- A profile that no error keeps back has a table. -/
theorem exists_configures {m : DiscoveredModel} {meanings : List Meaning} {p : Profile}
    (hm : m ∈ (s.discover policy).models) (htable : m.model.capability.hasTable = true)
    (hmeans : m.model.Means (s.discover policy).enums meanings) (hp : p ∈ m.profiles)
    (hopen : ∀ d ∈ s.diagnosed policy, d.blocks m.model.name p.dialect = false) :
    ∃ t, s.Configures policy m meanings p t := by
  obtain ⟨t, ht⟩ := Profile.table?_ne_none
    (Profile.isError_of_open (problems_subset_diagnosed hm htable hmeans hp) hopen)
  exact ⟨t, hm, htable, hp, hmeans, ht⟩

/-- A table that no error keeps back is well configured and has a key. -/
theorem Configures.configured {m : DiscoveredModel} {meanings : List Meaning} {p : Profile} {t : Table}
    (h : s.Configures policy m meanings p t)
    (hopen : ∀ d ∈ s.diagnosed policy, d.blocks m.model.name p.dialect = false) :
    (∀ q ∈ (p.resolve m.model meanings s.symbols).properties, q.Configured p.dialect t.identity) ∧
      t.keys ≠ [] := by
  obtain ⟨columns, -, rfl⟩ := Option.map_eq_some_iff.1 h.table
  obtain ⟨hconfigured, hkeys⟩ := Profile.configured_of_problems
    (Profile.isError_of_open (problems_subset_diagnosed h.discovered h.hasTable h.means h.profile) hopen)
  exact ⟨hconfigured, hkeys h.hasTable⟩

/-- The columns of a table come from the properties of its model, one from each. -/
theorem Configures.columns {m : DiscoveredModel} {meanings : List Meaning} {p : Profile} {t : Table}
    (h : s.Configures policy m meanings p t) :
    List.Forall₂ (fun q c => ∃ meaning settings,
      (Meaning.ofType (s.discover policy).enums q.inner = .ok meaning ∧
        q.resolve meaning settings p.dialect (t.keys.contains q.name) ∈
          (p.resolve m.model meanings s.symbols).properties) ∧
      ResolvedModel.columnOf? (q.resolve meaning settings p.dialect (t.keys.contains q.name)) = some c)
      m.model.properties t.columns := by
  obtain ⟨columns, hcolumns, rfl⟩ := Option.map_eq_some_iff.1 h.table
  have hfst : (m.model.properties.zip meanings).map Prod.fst = m.model.properties :=
    List.map_fst_zip (Nat.le_of_eq h.means.length_eq)
  have hsome := List.forall₂_map_left_iff.1 (mapM_eq_some_iff.1 hcolumns)
  have hall : ∀ x ∈ m.model.properties.zip meanings,
      Meaning.ofType (s.discover policy).enums x.1.inner = .ok x.2 ∧
        x.1.resolve x.2 ((p.settings m.model s.symbols).settingsOf x.1.name) p.dialect
          ((p.resolve m.model meanings s.symbols).keys.contains x.1.name) ∈
            (p.resolve m.model meanings s.symbols).properties :=
    fun x hx => ⟨List.forall₂_zip h.means hx, List.mem_map_of_mem hx⟩
  rw [← hfst, List.forall₂_map_left_iff]
  exact ((List.forall₂_and_left _ _).2 ⟨hall, hsome⟩).imp fun _ _ hx => ⟨_, _, hx⟩

end SourceSet

/-! ## Declarations of a crate -/

/-- A type that is a name. -/
def Source.TypeExpr.ofName (name : String) : Source.TypeExpr := .path name false [name] none

/-- A public struct of a module, with public fields whose types are names. -/
def Located.publicStruct (module name : String) (fields : List (String × String)) :
    Located Source.StructItem :=
  ⟨⟨name, default, true, false, some (fields.map fun (field, type) =>
    ⟨field, default, true, .ofName type⟩)⟩, [module], "src/" ++ module ++ ".rs"⟩

/-- An implementation of a trait in a module. -/
def Located.traitImpl (module traitName : String) (arguments : List String) (type : String)
    (methods : List Source.Method) : Located Source.ImplItem :=
  ⟨⟨some ⟨traitName, arguments.map .ofName⟩, .ofName type, default, methods⟩, [module],
    "src/" ++ module ++ ".rs"⟩

/-- Goods with a name of any length, and a report on them that is only read. -/
def goods : SourceSet :=
  let name : Source.Expr := .reference (.field (.path ["g"] default) "name" default) default
  let rule : Source.Expr := .methodCall (.path ["b"] default) "rule_for"
    [.closure ["g"] name default] default
  ⟨[.publicStruct "stock" "Goods" [("id", "i64"), ("name", "String")],
      .publicStruct "report" "Totals" [("count", "i32")]],
    [],
    [.traitImpl "stock" "BulkModel" [] "Goods" [],
      .traitImpl "report" "ResultModel" [] "Totals" [],
      .traitImpl "stock" "PostgresProfile" ["Goods"] "Storage"
        [⟨[], .methodCall rule "text" [] default⟩]],
    ⟨[]⟩, []⟩

set_option maxRecDepth 20000 in
/-- A run on the goods gives a table. -/
theorem exists_generate_goods :
    ∃ g, goods.generate .standard = .ok g ∧ ∃ e ∈ g.models, e.dialect = some .postgres := by
  have hnames : (emittedNames (goods.units .standard)).all Code.isName = true := by cbv
  have htables : ((goods.units .standard).any fun u =>
      u.model.capability.hasTable && u.tables.any (·.dialect = .postgres)) = true := by cbv
  obtain ⟨g, h⟩ := SourceSet.exists_generate_iff.2 (List.all_eq_true.1 hnames)
  obtain ⟨u, hu, htable⟩ := List.any_eq_true.1 htables
  obtain ⟨htable, hdialect⟩ := Bool.and_eq_true_iff.1 htable
  obtain ⟨t, ht, hdialect⟩ := List.any_eq_true.1 hdialect
  exact ⟨g, h, u.model.generatedTable t, SourceSet.generatedTable_mem_models h hu htable ht,
    congrArg some (of_decide_eq_true hdialect)⟩

set_option maxRecDepth 20000 in
/-- Nothing is wrong with the goods. -/
theorem diagnosed_goods : (goods.diagnosed .standard).any (·.isError) = false := by
  cbv

end Tablewright
