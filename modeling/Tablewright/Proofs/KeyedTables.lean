import Tablewright.Proofs.GeneratedTables
import Tablewright.Proofs.KeyedStatements

/-!
# Keyed tables

Every generated table has a key. A profile names only properties of its model for it, each once, or else
the key is the property called `id`; a model without either is an error, which keeps its tables back.
Key columns are never null, whatever the property or the profile says.

## Key results

- `property_of_mem_keys`: keys are properties of the model
- `Configures.hasKey`: tables that no error keeps back have a key
- `generated_keyed`: what the statements on a generated table do with its key
-/

namespace Tablewright

theorem nodup_eraseDups (names : List String) : names.eraseDups.Nodup := by
  match names with
  | [] => exact List.nodup_nil
  | name :: names =>
    -- The rest is filtered before it goes on, so that the recursion is on the length.
    rw [List.eraseDups_cons, List.nodup_cons]
    exact ⟨by simp, nodup_eraseDups _⟩
termination_by names.length
decreasing_by exact Nat.lt_succ_of_le (List.length_filter_le _ _)

/-! ## Keys of a profile -/

/-- A call on a table that names a property names one of the model. -/
theorem ProfileCall.property?_eq_some {c : ProfileCall} {m : Model} {name : String}
    (h : c.property? m = .ok (some name)) : (m.property? name).isSome = true := by
  simp only [property?] at h
  grind

/-- A property of the key is named by a call. -/
theorem ProfileCall.tableChange_eq_key {c : ProfileCall} {m : Model} (symbols : SymbolTable)
    {name : String} (h : c.tableChange m symbols = .ok (some (.key name))) :
    c.property? m = .ok (some name) := by
  rw [tableChange] at h
  split at h
  · cases htext : c.tableText symbols <;> rw [htext] at h <;> cases h
  · cases htext : c.tableText symbols <;> rw [htext] at h <;> cases h
  · rcases hproperty : c.property? m with _ | (_ | property) <;> rw [hproperty] at h <;> cases h
    rfl
  · rcases hproperty : c.property? m with _ | (_ | property) <;> rw [hproperty] at h <;> cases h
  · cases h

/-- A profile names only properties of the model for its key. -/
theorem Profile.property_of_mem_keys {p : Profile} {m : Model} {symbols : SymbolTable} {name : String}
    (h : name ∈ (p.settings m symbols).keys) : (m.property? name).isSome = true := by
  obtain ⟨change, hchange, hkey⟩ := List.mem_filterMap.1 (List.mem_eraseDups.1 h)
  obtain ⟨chain, -, hchange⟩ := List.mem_flatMap.1 hchange
  obtain ⟨outcome, houtcome, hsome⟩ := List.mem_filterMap.1 hchange
  obtain ⟨call, -, rfl⟩ := List.mem_map.1 houtcome
  obtain rfl : change = .key name := by
    cases change <;> simp_all
  refine call.property?_eq_some (ProfileCall.tableChange_eq_key symbols ?_)
  cases hcall : call.tableChange m symbols <;> rw [hcall] at hsome <;> cases hsome
  rfl

/-- The key of a resolved model consists of properties of the model, each of them once. -/
theorem Profile.keys_resolve (p : Profile) (m : Model) (meanings : List Meaning)
    (symbols : SymbolTable) : (p.resolve m meanings symbols).keys.Nodup ∧
      ∀ name ∈ (p.resolve m meanings symbols).keys, ∃ q ∈ m.properties, q.name = name := by
  have hkeys : (p.resolve m meanings symbols).keys =
      if (p.settings m symbols).keys.isEmpty then m.defaultKeys else (p.settings m symbols).keys := rfl
  rw [hkeys]
  split
  · rw [Model.defaultKeys]
    cases hid : m.properties.find? fun q => Text.eqIgnoreAsciiCase q.name "id" with
    | none => exact ⟨List.nodup_nil, fun name hname => absurd hname List.not_mem_nil⟩
    | some q =>
      refine ⟨List.nodup_singleton _, fun name hname => ⟨q, List.mem_of_find?_eq_some hid, ?_⟩⟩
      exact (List.mem_singleton.1 hname).symm
  · refine ⟨nodup_eraseDups _, fun name hname => ?_⟩
    obtain ⟨q, hq⟩ := Option.isSome_iff_exists.1 (Profile.property_of_mem_keys hname)
    exact ⟨q, List.mem_of_find?_eq_some hq, by simpa using List.find?_some hq⟩

namespace SourceSet

variable {s : SourceSet} {policy : Policy} {m : DiscoveredModel} {meanings : List Meaning}
  {p : Profile} {t : Table}

/-- A table that no error keeps back has a key. -/
theorem Configures.hasKey (h : s.Configures policy m meanings p t)
    (hopen : ∀ d ∈ s.diagnosed policy, d.blocks m.model.name p.dialect = false) : t.HasKey := by
  have hkeys : t.keys = (p.resolve m.model meanings s.symbols).keys := by
    obtain ⟨columns, -, rfl⟩ := Option.map_eq_some_iff.1 h.table
    rfl
  obtain ⟨hnodup, hnamed⟩ := p.keys_resolve m.model meanings s.symbols
  rw [← hkeys] at hnodup hnamed
  have hcolumns : List.Forall₂ (fun q c => c.property = q.name ∧ (q.name ∈ t.keys → c.nullable = false))
      m.model.properties t.columns := by
    refine h.columns.imp fun q c => ?_
    rintro ⟨meaning, settings, -, hc⟩
    obtain ⟨_, -, rfl⟩ := Option.map_eq_some_iff.1 hc
    exact ⟨rfl, fun hkey => by simp [Property.resolve, hkey]⟩
  refine ⟨(h.configured hopen).2, hnodup, fun name hname => ?_, fun c hc hkey => ?_⟩
  · obtain ⟨q, hq, rfl⟩ := hnamed name hname
    obtain ⟨c, hc, hproperty, -⟩ := exists_mem_of_forall₂ hcolumns hq
    exact List.find?_isSome.2 ⟨c, hc, by simpa using hproperty⟩
  · obtain ⟨q, -, hproperty, hnullable⟩ := exists_mem_of_forall₂ hcolumns.flip hc
    exact hnullable (hproperty ▸ hkey)

/-- Every generated table has a key, and the statements on it use the key as they should. -/
theorem generated_keyed (s : SourceSet) (policy : Policy) (g : Generation)
    (h : s.generate policy = .ok g) : ∀ e ∈ g.models, ∀ d, e.dialect = some d →
      ∃ m meanings p t, s.Configures policy m meanings p t ∧ e = m.model.generatedTable t ∧
        t.dialect = d ∧ t.HasKey ∧ t.KeyedStatements := by
  intro e he d hd
  rcases (mem_models_iff h).1 he with ⟨m, -, -, -, rfl⟩ | ⟨m, meanings, p, t, hc, hopen, rfl⟩
  · cases hd
  · simp only [mem_diagnostics_iff h] at hopen
    have hkey := hc.hasKey hopen
    exact ⟨m, meanings, p, t, hc, rfl, Option.some.inj hd, hkey, hkey.keyedStatements⟩

/-- The table of the goods has a key. -/
theorem generated_keyed_goods : ∃ g, goods.generate .standard = .ok g ∧ ∃ e ∈ g.models,
    ∃ m meanings p t, goods.Configures .standard m meanings p t ∧ e = m.model.generatedTable t ∧
      t.dialect = .postgres ∧ t.HasKey ∧ t.KeyedStatements := by
  obtain ⟨g, h, e, he, hd⟩ := exists_generate_goods
  exact ⟨g, h, e, he, generated_keyed goods .standard g h e he .postgres hd⟩

end SourceSet

end Tablewright
