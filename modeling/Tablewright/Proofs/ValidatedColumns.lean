import Tablewright.Proofs.GeneratedTables

/-!
# Validated columns

Validation passes just the well configured models, and complains about missing settings just where some
are missing. As errors keep a table back, every column of a generated table can hold the values of its
property.
-/

namespace Tablewright

/-- A column holds the values of a property: the property's type means something that it fits, and the
store assigns only integers. -/
def Property.HeldBy (q : Property) (enums : List EnumModel) (t : Table) (c : Column) : Prop :=
  ∃ meaning, Meaning.ofType enums q.inner = .ok meaning ∧ c.property = q.name ∧
    c.Fits meaning t.dialect ∧ (q.name ∈ t.identity → meaning.family = .integer)

/-- The columns of a table that no error keeps back hold the values of the model's properties. -/
theorem SourceSet.Configures.held {s : SourceSet} {policy : Policy} {m : DiscoveredModel}
    {meanings : List Meaning} {p : Profile} {t : Table} (h : s.Configures policy m meanings p t)
    (hopen : ∀ d ∈ s.diagnosed policy, d.blocks m.model.name p.dialect = false) :
    List.Forall₂ (fun q c => q.HeldBy (s.discover policy).enums t c) m.model.properties t.columns := by
  refine h.columns.imp fun q c => ?_
  rintro ⟨meaning, settings, ⟨hmeaning, hmem⟩, hc⟩
  obtain ⟨⟨c', hc', hfits⟩, hidentity⟩ := (h.configured hopen).1 _ hmem
  obtain rfl := Option.some.inj (hc.symm.trans hc')
  obtain ⟨_, -, rfl⟩ := Option.map_eq_some_iff.1 hc
  exact ⟨meaning, hmeaning, rfl, Profile.dialect_of_table? h.table ▸ hfits, hidentity⟩

/-- Validation finds no error just in well configured models with the key that they need, and tells of
missing settings once for each property that lacks some. The columns of generated tables hold the values
of their properties. -/
theorem validation_exact :
    (∀ (m : Model) (meanings : List Meaning) (settings : ProfileSettings) (d : Dialect),
      ((∀ e ∈ (m.resolve meanings settings d).validate m, e.isError = false) ↔
        (∀ p ∈ (m.resolve meanings settings d).properties, p.Configured d settings.identity) ∧
          (m.capability.hasTable = true → (m.resolve meanings settings d).keys ≠ [])) ∧
      ((m.resolve meanings settings d).validate m).filter (fun e => e.kind = .missingConfiguration) =
        ((m.resolve meanings settings d).properties.filter fun p => p.LacksSettings d).map
          fun p => p.missingDiagnostic m.name d) ∧
    ∀ (s : SourceSet) (policy : Policy) (g : Generation), s.generate policy = .ok g →
      ∀ e ∈ g.models, ∀ d, e.dialect = some d →
        ∃ m meanings p t, s.Configures policy m meanings p t ∧ e = m.model.generatedTable t ∧
          t.dialect = d ∧ t.keys ≠ [] ∧ List.Forall₂
            (fun q c => q.HeldBy (s.discover policy).enums t c) m.model.properties t.columns := by
  refine ⟨fun m meanings settings d => ⟨?_, ResolvedModel.filter_validate_missing⟩, ?_⟩
  · exact ResolvedModel.forall_validate_iff fun _ hp => Model.defaulted_resolve hp
  · intro s policy g h e he d hd
    rcases (SourceSet.mem_models_iff h).1 he with ⟨m, -, -, -, rfl⟩ | ⟨m, meanings, p, t, hc, hopen, rfl⟩
    · cases hd
    · simp only [SourceSet.mem_diagnostics_iff h] at hopen
      exact ⟨m, meanings, p, t, hc, rfl, Option.some.inj hd, (hc.configured hopen).2, hc.held hopen⟩

/-- The table of the goods holds the values of their properties. -/
theorem validation_exact_goods : ∃ g, goods.generate .standard = .ok g ∧ ∃ e ∈ g.models,
    ∃ m meanings p t, goods.Configures .standard m meanings p t ∧ e = m.model.generatedTable t ∧
      t.dialect = .postgres ∧ t.keys ≠ [] ∧ List.Forall₂
        (fun q c => q.HeldBy (goods.discover .standard).enums t c) m.model.properties t.columns := by
  obtain ⟨g, h, e, he, hd⟩ := exists_generate_goods
  exact ⟨g, h, e, he, validation_exact.2 goods .standard g h e he .postgres hd⟩

end Tablewright
