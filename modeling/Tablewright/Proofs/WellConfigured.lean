import Tablewright.Profile.Validation

/-!
# Well configured models

What a property needs so that a column can hold its values: a type of the dialect and of the right
family, and the length or precision that only a profile can give. Validation complains about the
properties that lack some of it, and about no others.

## Key results

- `problems_eq_nil_iff`: nothing is wrong with a property just if it is well configured
- `forall_validate_iff`: validation finds no error just in well configured models with a key
- `filter_validate_missing`: each property that lacks settings is complained about once
-/

namespace Tablewright

/-- What a column says of itself is enough for the values of a property. -/
structure Column.Fits (c : Column) (meaning : Meaning) (d : Dialect) : Prop where
  dialect : c.type.dialect = d
  family : c.type.family = meaning.family
  /-- Texts and binary values say how long they are, if their type takes a length. -/
  size : meaning = .text ∨ meaning = .bytes → c.type.takesSize = true → c.size ≠ none
  /-- Decimals say how precise they are. -/
  precision : meaning = .decimal → ∃ precision scale, c.precision = some precision ∧
    c.scale = some scale ∧ 1 ≤ precision ∧ precision ≤ 38 ∧ scale ≤ precision

namespace ResolvedProperty

/-- A property has a column for its values, and the store assigns only integers. -/
structure Configured (p : ResolvedProperty) (d : Dialect) (identity : List String) : Prop where
  column : ∃ c, ResolvedModel.columnOf? p = some c ∧ c.Fits p.meaning d
  identity : p.name ∈ identity → p.meaning.family = .integer

/-- The type is the profile's, or the one that stands for the meaning where the profile names none. -/
structure Defaulted (p : ResolvedProperty) (d : Dialect) : Prop where
  explicit : p.isExplicit = true → p.type ≠ none
  default : p.isExplicit = false → p.type = p.meaning.defaultType? d

/-- A type, length, precision or scale is not there that only a profile can give. -/
def Incomplete (p : ResolvedProperty) : Prop :=
  ((p.meaning = .text ∨ p.meaning = .bytes) ∧
    (p.type = none ∨ p.type.any (·.takesSize) = true ∧ p.size = none)) ∨
  (p.meaning = .decimal ∧ (p.type = none ∨ p.precision = none ∨ p.scale = none))

/-- The type that the profile names, if it does, is right, but something is not there. -/
def LacksSettings (p : ResolvedProperty) (d : Dialect) : Prop :=
  (p.isExplicit = true → ∀ t ∈ p.type, t.dialect = d ∧ t.family = p.meaning.family) ∧ p.Incomplete

instance (p : ResolvedProperty) (d : Dialect) : Decidable (p.LacksSettings d) :=
  inferInstanceAs (Decidable (_ ∧ (_ ∨ _)))

/-- The complaint about what is not there. -/
def missingDiagnostic (p : ResolvedProperty) (model : String) (d : Dialect) : Diagnostic :=
  ⟨.missingSettings p.missing, model, some p.name, some d, p.declaredAt⟩

end ResolvedProperty

/-! ## Types that stand for a meaning -/

/-- A default type is of the dialect, and holds the values that are meant. -/
theorem Meaning.fits_defaultType? {meaning : Meaning} {d : Dialect} {t : ColumnType}
    (h : meaning.defaultType? d = some t) : t.dialect = d ∧ t.family = meaning.family := by
  have hwidth (w : IntWidth) : (w.columnType d).dialect = d ∧ (w.columnType d).family = .integer := by
    cases d <;> cases w <;> decide
  cases meaning with
  | int w => exact Option.some.inj h ▸ hwidth w
  | enum e => exact Option.some.inj h ▸ hwidth e.representation
  | decimal => cases h
  | text => cases h
  | bytes => cases h
  | _ => cases d <;> (obtain rfl := Option.some.inj h; exact ⟨rfl, rfl⟩)

/-- Only texts, binary values and decimals have no default type. -/
theorem Meaning.ambiguous_of_defaultType? {meaning : Meaning} {d : Dialect}
    (h : meaning.defaultType? d = none) :
    meaning = .text ∨ meaning = .bytes ∨ meaning = .decimal := by
  cases meaning with
  | text => exact .inl rfl
  | bytes => exact .inr (.inl rfl)
  | decimal => exact .inr (.inr rfl)
  | _ => cases d <;> cases h

namespace ResolvedProperty

variable {p : ResolvedProperty} {d : Dialect} {identity : List String}

/-! ## One check after the other -/

theorem typeProblem?_eq_none_iff :
    p.typeProblem? d = none ↔
      (p.isExplicit = true → ∀ t ∈ p.type, t.dialect = d ∧ t.family = p.meaning.family) := by
  rw [typeProblem?]
  cases p.type with
  | none => simp
  | some t =>
    cases p.isExplicit with
    | false => simp
    | true =>
      by_cases hdialect : t.dialect = d <;> by_cases hfamily : t.family = p.meaning.family <;>
        simp [hdialect, hfamily]

/-- A default type is never wrong, so that only the profile's has to be looked at. -/
theorem Defaulted.fits (h : p.Defaulted d) (hnone : p.typeProblem? d = none) :
    ∀ t ∈ p.type, t.dialect = d ∧ t.family = p.meaning.family := by
  intro t ht
  cases hexplicit : p.isExplicit with
  | true => exact typeProblem?_eq_none_iff.1 hnone hexplicit t ht
  | false => exact Meaning.fits_defaultType? ((h.default hexplicit).symm.trans ht)

theorem missing_eq_nil_iff : p.missing = [] ↔ ¬p.Incomplete := by
  rw [missing, Incomplete]
  cases p.meaning with
  | text => cases p.type <;> cases p.size <;> simp
  | bytes => cases p.type <;> cases p.size <;> simp
  | decimal => cases p.type <;> cases p.precision <;> cases p.scale <;> simp
  | _ => simp

theorem precisionProblem?_eq_none_iff :
    p.precisionProblem? = none ↔
      ∀ precision ∈ p.precision, p.type.any (·.takesPrecision) = true →
        1 ≤ precision ∧ precision ≤ 38 ∧ ∀ scale ∈ p.scale, scale ≤ precision := by
  rw [precisionProblem?]
  cases p.precision with
  | none => simp
  | some precision =>
    cases p.type.any (·.takesPrecision) with
    | false => simp
    | true =>
      have hout : (precision == 0 || decide (maxPrecision < precision)) = true ↔
          ¬(1 ≤ precision ∧ precision ≤ 38) := by
        rw [Bool.or_eq_true, beq_iff_eq, decide_eq_true_iff, maxPrecision]
        omega
      by_cases hrange : 1 ≤ precision ∧ precision ≤ 38
      · have hin := mt hout.1 (not_not_intro hrange)
        cases p.scale <;> simp [hin, hrange]
      · simp only [hout.2 hrange, Bool.not_true, Bool.false_eq_true, if_false, if_true,
          reduceCtorEq, Option.mem_def, Option.some.injEq, forall_eq', false_iff]
        exact fun h => hrange ⟨(h trivial).1, (h trivial).2.1⟩

theorem identityProblem?_eq_none_iff :
    p.identityProblem? identity = none ↔ (p.name ∈ identity → p.meaning.family = .integer) := by
  simp [identityProblem?]

theorem kind_of_typeProblem? {problem : Problem} (h : p.typeProblem? d = some problem) :
    problem.kind = .invalidConfiguration := by
  rw [typeProblem?] at h
  grind [Problem.kind]

theorem kind_of_precisionProblem? {problem : Problem} (h : p.precisionProblem? = some problem) :
    problem.kind = .invalidConfiguration := by
  rw [precisionProblem?] at h
  grind [Problem.kind]

theorem kind_of_identityProblem? {problem : Problem} (h : p.identityProblem? identity = some problem) :
    problem.kind = .invalidConfiguration := by
  rw [identityProblem?] at h
  grind [Problem.kind]

/-! ## All checks -/

theorem problems_eq_nil : p.problems d identity = [] ↔
    p.typeProblem? d = none ∧ p.missing = [] ∧ p.precisionProblem? = none ∧
      p.identityProblem? identity = none := by
  rw [problems]
  cases p.typeProblem? d with
  | some problem => simp
  | none =>
    by_cases hmissing : p.missing = []
    · simp [hmissing]
    · simp [hmissing]

/-- A property without a type lacks one that its profile has to name. -/
theorem Defaulted.type_ne_none (h : p.Defaulted d) (hcomplete : ¬p.Incomplete) : p.type ≠ none := by
  intro hnone
  have hexplicit : p.isExplicit = false := by
    cases he : p.isExplicit with
    | false => rfl
    | true => exact absurd hnone (h.explicit he)
  have hdefault := (h.default hexplicit).symm.trans hnone
  apply hcomplete
  rcases Meaning.ambiguous_of_defaultType? hdefault with hm | hm | hm
  · exact .inl ⟨.inl hm, .inl hnone⟩
  · exact .inl ⟨.inr hm, .inl hnone⟩
  · exact .inr ⟨hm, .inl hnone⟩

theorem Configured.of_problems (h : p.Defaulted d) (hnone : p.problems d identity = []) :
    p.Configured d identity := by
  obtain ⟨htype, hmissing, hprecision, hidentity⟩ := problems_eq_nil.1 hnone
  have hcomplete := missing_eq_nil_iff.1 hmissing
  obtain ⟨t, ht⟩ := Option.ne_none_iff_exists'.1 (h.type_ne_none hcomplete)
  have hfits := h.fits htype t ht
  rw [precisionProblem?_eq_none_iff] at hprecision
  refine ⟨⟨_, by rw [ResolvedModel.columnOf?, ht]; rfl, hfits.1, hfits.2, ?_, ?_⟩,
    identityProblem?_eq_none_iff.1 hidentity⟩
  · intro hmeaning hsize hlength
    exact hcomplete (.inl ⟨hmeaning, .inr ⟨by simpa [ht] using hsize, hlength⟩⟩)
  · intro hmeaning
    have hdecimal : p.type.any (·.takesPrecision) = true := by
      simp [ht, ColumnType.takesPrecision, hfits.2, hmeaning, Meaning.family]
    cases hp : p.precision with
    | none => exact absurd (.inr ⟨hmeaning, .inr (.inl hp)⟩) hcomplete
    | some precision =>
      cases hs : p.scale with
      | none => exact absurd (.inr ⟨hmeaning, .inr (.inr hs)⟩) hcomplete
      | some scale =>
        obtain ⟨hlow, hhigh, hscale⟩ := hprecision precision hp hdecimal
        exact ⟨precision, scale, rfl, rfl, hlow, hhigh, hscale scale hs⟩

theorem Configured.problems_eq_nil (h : p.Configured d identity) : p.problems d identity = [] := by
  obtain ⟨⟨c, hc, hfits⟩, hidentity⟩ := h
  obtain ⟨t, ht, rfl⟩ := Option.map_eq_some_iff.1 hc
  refine ResolvedProperty.problems_eq_nil.2 ⟨typeProblem?_eq_none_iff.2 fun _ t' ht' => ?_,
    missing_eq_nil_iff.2 ?_, precisionProblem?_eq_none_iff.2 ?_,
    identityProblem?_eq_none_iff.2 hidentity⟩
  · obtain rfl := Option.some.inj (ht.symm.trans ht')
    exact ⟨hfits.dialect, hfits.family⟩
  · rintro (⟨hmeaning, hnone | ⟨hsize, hlength⟩⟩ | ⟨hmeaning, hsetting⟩)
    · exact absurd (ht.symm.trans hnone) nofun
    · exact hfits.size hmeaning (by simpa [ht] using hsize) hlength
    · obtain ⟨precision, scale, hp, hs, -⟩ := hfits.precision hmeaning
      rcases hsetting with hnone | hnone | hnone
      · exact absurd (ht.symm.trans hnone) nofun
      · exact absurd (hp.symm.trans hnone) nofun
      · exact absurd (hs.symm.trans hnone) nofun
  · intro precision hprecision hdecimal
    -- A type that takes a precision stores nothing but decimals.
    have hmeaning : p.meaning = .decimal := by
      have hfamily : p.meaning.family = .decimal := by
        rw [← hfits.family]
        simpa [ht, ColumnType.takesPrecision] using hdecimal
      cases hm : p.meaning <;> simp_all [Meaning.family]
    obtain ⟨precision', scale, hp, hs, hlow, hhigh, hscale⟩ := hfits.precision hmeaning
    obtain rfl := Option.some.inj (hp.symm.trans hprecision)
    refine ⟨hlow, hhigh, fun scale' hscale' => ?_⟩
    obtain rfl := Option.some.inj (hs.symm.trans hscale')
    exact hscale

/-- Nothing is wrong with a property just if it is well configured. -/
theorem problems_eq_nil_iff (h : p.Defaulted d) :
    p.problems d identity = [] ↔ p.Configured d identity :=
  ⟨Configured.of_problems h, Configured.problems_eq_nil⟩

/-- A problem of a property is a list of missing settings, or a setting that is wrong. -/
theorem kind_of_mem_problems {problem : Problem} (h : problem ∈ p.problems d identity) :
    problem = .missingSettings p.missing ∧ p.typeProblem? d = none ∧ p.missing ≠ [] ∨
      problem.kind = .invalidConfiguration := by
  rw [problems] at h
  cases htype : p.typeProblem? d with
  | some wrong =>
    rw [htype] at h
    obtain rfl := List.mem_singleton.1 h
    exact .inr (kind_of_typeProblem? htype)
  | none =>
    by_cases hmissing : p.missing = []
    · simp only [htype, hmissing, List.isEmpty_nil, if_true, List.mem_append, Option.mem_toList] at h
      exact .inr (h.elim kind_of_precisionProblem? kind_of_identityProblem?)
    · simp only [htype, List.isEmpty_eq_false_iff.2 hmissing, Bool.false_eq_true, if_false,
        List.mem_singleton] at h
      exact .inl ⟨h, rfl, hmissing⟩

/-- Whatever is wrong with a property is an error. -/
theorem severity_of_mem_problems {problem : Problem} (h : problem ∈ p.problems d identity) :
    problem.kind.severity = .error := by
  rcases kind_of_mem_problems h with ⟨rfl, -, -⟩ | hkind
  · rfl
  · rw [hkind]
    rfl

theorem lacksSettings_iff : p.LacksSettings d ↔ p.typeProblem? d = none ∧ p.missing ≠ [] := by
  rw [LacksSettings, typeProblem?_eq_none_iff, ne_eq, missing_eq_nil_iff,
    Classical.not_not]

/-- A property is complained about for missing settings once if it lacks some, and else not at all. -/
theorem filter_problems_missing :
    (p.problems d identity).filter (fun problem => problem.kind = .missingConfiguration) =
      if p.LacksSettings d then [.missingSettings p.missing] else [] := by
  by_cases hlacks : p.LacksSettings d
  · obtain ⟨htype, hmissing⟩ := lacksSettings_iff.1 hlacks
    have hproblems : p.problems d identity = [.missingSettings p.missing] := by
      simp [problems, htype, hmissing]
    rw [hproblems, if_pos hlacks]
    rfl
  · rw [if_neg hlacks, List.filter_eq_nil_iff]
    intro problem hmem
    rcases kind_of_mem_problems hmem with ⟨-, hfound⟩ | hkind
    · exact absurd (lacksSettings_iff.2 hfound) hlacks
    · simp [hkind]

end ResolvedProperty

/-! ## Models -/

/-- The properties of a resolved model have the profile's types or the default ones. -/
theorem Model.defaulted_resolve {m : Model} {meanings : List Meaning} {s : ProfileSettings}
    {d : Dialect} {p : ResolvedProperty} (h : p ∈ (m.resolve meanings s d).properties) :
    p.Defaulted d := by
  obtain ⟨⟨property, meaning⟩, -, rfl⟩ := List.mem_map.1 h
  show (property.resolve meaning (s.settingsOf property.name) d _).Defaulted d
  cases htype : (s.settingsOf property.name).type with
  | none => exact ⟨by simp [Property.resolve, htype], by simp [Property.resolve, htype]⟩
  | some t => exact ⟨by simp [Property.resolve, htype], by simp [Property.resolve, htype]⟩

namespace ResolvedModel

variable {r : ResolvedModel} {m : Model}

/-- Of what is wrong with a key, only its absence is an error. -/
theorem severity_keyProblem? : (∀ problem ∈ r.keyProblem?, problem.kind.severity ≠ .error) ↔
    r.keys ≠ [] := by
  rw [keyProblem?]
  by_cases hkeys : r.keys = []
  · simp [hkeys, Problem.kind, DiagnosticKind.severity]
  · simp only [List.isEmpty_eq_false_iff.2 hkeys, Bool.false_eq_true, if_false, ne_eq, hkeys,
      not_false_eq_true, iff_true]
    intro problem hproblem
    split at hproblem
    · obtain rfl := Option.some.inj hproblem
      decide
    · cases hproblem

theorem mem_validate {e : Diagnostic} : e ∈ r.validate m ↔
    (∃ p ∈ r.properties, ∃ problem ∈ p.problems r.dialect r.identity,
      e = ⟨problem, m.name, some p.name, some r.dialect, p.placeOf problem⟩) ∨
    (m.capability.hasTable = true ∧ ∃ problem ∈ r.keyProblem?,
      e = ⟨problem, m.name, none, some r.dialect, m.location⟩) := by
  simp only [validate, List.mem_append, List.mem_flatMap, List.mem_map]
  cases m.capability.hasTable <;> simp [eq_comm]

/-- Validation finds no error just in well configured models that have a key if they need one. -/
theorem forall_validate_iff (h : ∀ p ∈ r.properties, p.Defaulted r.dialect) :
    (∀ e ∈ r.validate m, e.isError = false) ↔
      (∀ p ∈ r.properties, p.Configured r.dialect r.identity) ∧
        (m.capability.hasTable = true → r.keys ≠ []) := by
  constructor
  · intro hvalid
    refine ⟨fun p hp => ?_, fun htable => severity_keyProblem?.1 fun problem hproblem herror => ?_⟩
    · refine (ResolvedProperty.problems_eq_nil_iff (h p hp)).1 (List.eq_nil_iff_forall_not_mem.2 ?_)
      intro problem hproblem
      have hfine := hvalid _ (mem_validate.2 (.inl ⟨p, hp, problem, hproblem, rfl⟩))
      have herror := ResolvedProperty.severity_of_mem_problems hproblem
      simp [Diagnostic.isError, Diagnostic.severity, Diagnostic.kind, herror] at hfine
    · have hfine := hvalid _ (mem_validate.2 (.inr ⟨htable, problem, hproblem, rfl⟩))
      simp [Diagnostic.isError, Diagnostic.severity, Diagnostic.kind, herror] at hfine
  · rintro ⟨hconfigured, hkeys⟩ e he
    rcases mem_validate.1 he with ⟨p, hp, problem, hproblem, -⟩ | ⟨htable, problem, hproblem, rfl⟩
    · rw [(hconfigured p hp).problems_eq_nil] at hproblem
      cases hproblem
    · have hwarning := severity_keyProblem?.2 (hkeys htable) problem hproblem
      simpa [Diagnostic.isError, Diagnostic.severity, Diagnostic.kind] using hwarning

/-- Of the properties, just those that lack settings are complained about for it, each once. -/
theorem filter_validate_missing :
    (r.validate m).filter (fun e => e.kind = .missingConfiguration) =
      (r.properties.filter fun p => p.LacksSettings r.dialect).map
        fun p => p.missingDiagnostic m.name r.dialect := by
  have hkey : ((if m.capability.hasTable then r.keyProblem?.toList else []).map fun problem =>
      (⟨problem, m.name, none, some r.dialect, m.location⟩ : Diagnostic)).filter
        (fun e => e.kind = .missingConfiguration) = [] := by
    rw [List.filter_eq_nil_iff]
    intro e he
    obtain ⟨problem, hproblem, rfl⟩ := List.mem_map.1 he
    split at hproblem
    · rw [Option.mem_toList, keyProblem?] at hproblem
      grind [Diagnostic.kind, Problem.kind]
    · cases hproblem
  rw [validate, List.filter_append, hkey, List.append_nil]
  generalize r.identity = identity
  induction r.properties with
  | nil => rfl
  | cons p ps ih =>
    have hfirst : (p.problems r.dialect identity).filter
        (fun problem => problem.kind = .missingConfiguration) =
          if p.LacksSettings r.dialect then [.missingSettings p.missing] else [] :=
      p.filter_problems_missing
    have hkind : (fun e : Diagnostic => decide (e.kind = .missingConfiguration)) ∘
        (fun problem => ⟨problem, m.name, some p.name, some r.dialect, p.placeOf problem⟩) =
          fun problem => decide (problem.kind = .missingConfiguration) := rfl
    rw [List.flatMap_cons, List.filter_append, ih, List.filter_map, hkind, hfirst, List.filter_cons]
    by_cases hlacks : p.LacksSettings r.dialect
    · simp only [hlacks, if_true, decide_true, List.map_cons, List.map_nil, List.cons_append,
        List.nil_append]
      rfl
    · simp only [hlacks, if_false, decide_false, Bool.false_eq_true, List.map_nil, List.nil_append]

end ResolvedModel

end Tablewright
