import Tablewright.Proofs.Namesakes
import Tablewright.Proofs.SortedDiagnostics

/-!
# Separate dialects

What the declarations of a crate say in one dialect does not depend on what they say in the other. Two
crates that differ only in profiles for the other dialect, and in functions beside profiles that are for it,
have the same profiles in this one, and the same is wrong with them; the same tables are generated.

## Key results

- `SameBut.profileAt?`: the same profiles are found
- `SameBut.filter_diagnosed`: the same is wrong with a model that has a profile
- `SameBut.filter_units`: the same tables of it are generated
- `dialects_separate`: the same is shown for it by runs that succeed
- `not_generated_beside_profile`: a run can fail for what is for the other dialect
-/

namespace Tablewright

/-! ## Crates without a dialect -/

/-- An implementation without the functions that name a dialect in the type of a parameter. -/
def Located.stripped (d : Dialect) (i : Located Source.ImplItem) : Located Source.ImplItem :=
  { i with item := { i.item with
      methods := i.item.methods.filter fun m =>
        m.parameterTypes.all fun type => !(typeWords type).contains d.markerName } }

/-- What is left of an implementation without what is for a dialect: nothing of a profile for it, and of
functions beside profiles those that do not name it, if there are any. -/
def Located.without (d : Dialect) (i : Located Source.ImplItem) : Option (Located Source.ImplItem) :=
  match i.item.ofTrait with
  | some ofTrait => if ofTrait.name = d.profileTrait then none else some i
  | none => if (i.stripped d).item.methods.isEmpty then none else some (i.stripped d)

/-- Crates that are the same but for what is for a dialect. -/
structure SourceSet.SameBut (d : Dialect) (s s' : SourceSet) : Prop where
  structs : s'.structs = s.structs
  enums : s'.enums = s.enums
  symbols : s'.symbols = s.symbols
  impls : s'.impls.filterMap (·.without d) = s.impls.filterMap (·.without d)

/-- A diagnostic is about a model, in a dialect or in all of them. -/
def Diagnostic.isAbout (model : String) (d : Dialect) (e : Diagnostic) : Bool :=
  e.model == model && e.dialect.all (· == d)

theorem Dialect.ne_other (d : Dialect) : d ≠ d.other := by
  cases d <;> decide

namespace SourceSet

variable {s s' : SourceSet} {d : Dialect}

/-- What is not taken from what is for a dialect is the same in both crates. -/
theorem SameBut.flatMap_impls (h : s.SameBut d s') {β : Type} {f : Located Source.ImplItem → List β}
    (hprofile : ∀ i ofTrait, i.item.ofTrait = some ofTrait → ofTrait.name = d.profileTrait → f i = [])
    (hbeside : ∀ i, i.item.ofTrait = none → f (i.stripped d) = f i)
    (hempty : ∀ i, i.item.ofTrait = none → i.item.methods = [] → f i = []) :
    s'.impls.flatMap f = s.impls.flatMap f := by
  have hwithout (i : Located Source.ImplItem) : (i.without d).toList.flatMap f = f i := by
    rw [Located.without]
    split
    next ofTrait htrait =>
      split
      next hname => exact (hprofile i ofTrait htrait hname).symm
      next => simp
    next hnone =>
      split
      next hmethods =>
        rw [← hbeside i hnone]
        exact (hempty (i.stripped d) hnone (List.isEmpty_iff.1 hmethods)).symm
      next => simpa using hbeside i hnone
  -- Nothing is taken from what is left out, so that only the rest counts, which is the same.
  have hleft (impls : List (Located Source.ImplItem)) :
      (impls.filterMap (·.without d)).flatMap f = impls.flatMap f := by
    rw [List.filterMap_eq_flatMap_toList, List.flatMap_assoc]
    exact List.flatMap_congr fun i _ => hwithout i
  rw [← hleft, h.impls, hleft]

theorem SameBut.structPlace? (h : s.SameBut d s') : s'.structPlace? = s.structPlace? := by
  funext segments near
  simp only [SourceSet.structPlace?, h.structs]

theorem SameBut.place? (h : s.SameBut d s') (c : ProfileClaim) : c.place? s' = c.place? s := by
  simp only [ProfileClaim.place?, h.structPlace?]

/-! ## What is found -/

/-- No capability is asked for by a profile. -/
theorem Capability.ofTrait?_profileTrait (d : Dialect) : Capability.ofTrait? d.profileTrait = none := by
  cases d <;> decide

/-- The same capabilities are asked for. -/
theorem SameBut.claims (h : s.SameBut d s') :
    s'.impls.filterMap s'.claim? = s.impls.filterMap s.claim? := by
  have hclaim : s'.claim? = s.claim? := by
    funext i
    simp only [claim?, h.structPlace?]
  have hnone (i : Located Source.ImplItem) (hi : i.item.ofTrait = none) : s.claim? i = none := by
    simp [claim?, hi]
  rw [hclaim, List.filterMap_eq_flatMap_toList, List.filterMap_eq_flatMap_toList]
  refine h.flatMap_impls (fun i ofTrait htrait hname => ?_) (fun i hi => ?_) fun i hi _ => ?_
  · simp [claim?, htrait, hname, Capability.ofTrait?_profileTrait]
  · rw [hnone i hi, hnone (i.stripped d) hi]
  · rw [hnone i hi]
    rfl

/-- The same profiles are there for another dialect. -/
theorem SameBut.profileClaims {d' : Dialect} (h : s.SameBut d s') (hd : d' ≠ d) :
    (s'.impls.filterMap ProfileClaim.of?).filter (·.dialect == d') =
      (s.impls.filterMap ProfileClaim.of?).filter (·.dialect == d') := by
  have hnone (i : Located Source.ImplItem) (hi : i.item.ofTrait = none) : ProfileClaim.of? i = none := by
    simp [ProfileClaim.of?, hi]
  have htrait : Dialect.all.find? (·.profileTrait == d.profileTrait) = some d := by
    cases d <;> decide
  rw [List.filter_filterMap, List.filter_filterMap, List.filterMap_eq_flatMap_toList,
    List.filterMap_eq_flatMap_toList]
  refine h.flatMap_impls (fun i ofTrait hi hname => ?_) (fun i hi => ?_) fun i hi _ => ?_
  · simp [ProfileClaim.of?, hi, hname, htrait, hd.symm]
  · rw [hnone i hi, hnone (i.stripped d) hi]
  · rw [hnone i hi]
    rfl

/-- Functions for another dialect are not among those left out. -/
theorem applies_of_other {m : Source.Method} {d : Dialect} {model : String} (h : m.applies d model = true) :
    (m.parameterTypes.all fun type => !(typeWords type).contains d.other.markerName) = true := by
  rw [Source.Method.applies, List.all_eq_true] at h
  refine List.all_eq_true.2 fun type htype => ?_
  exact (Bool.and_eq_true_iff.1 (h type htype)).1

/-- Leaving functions out does not matter for those that are for another dialect. -/
theorem bodiesOf_stripped (i : Located Source.ImplItem) (d : Dialect) (model : String) :
    bodiesOf (i.stripped d.other) (·.applies d model) = bodiesOf i (·.applies d model) := by
  rw [bodiesOf, bodiesOf, Located.stripped, List.filter_filter]
  congr 1
  refine List.filter_congr fun m _ => ?_
  cases happlies : m.applies d model with
  | false => rfl
  | true => rw [applies_of_other happlies]; rfl

theorem flatMap_filter {α β : Type} (p : α → Bool) (f : α → List β) (xs : List α) :
    (xs.filter p).flatMap f = xs.flatMap fun x => if p x then f x else [] := by
  induction xs with
  | nil => rfl
  | cons x xs ih =>
    rw [List.filter_cons, List.flatMap_cons, ← ih]
    split <;> rfl

/-- A profile for another dialect has the same content. -/
theorem SameBut.profileOf (h : s.SameBut d s') (m : Model) {c : ProfileClaim} (hc : c.dialect.other = d) :
    s'.profileOf m c = s.profileOf m c := by
  subst hc
  simp only [SourceSet.profileOf, flatMap_filter]
  congr 2
  refine h.flatMap_impls (fun i ofTrait hi hname => ?_) (fun i hi => ?_) fun i hi hmethods => ?_
  · simp [hi]
  · have htype : (i.stripped c.dialect.other).item.type = i.item.type := rfl
    have htrait : (i.stripped c.dialect.other).item.ofTrait = i.item.ofTrait := rfl
    rw [htype, htrait, bodiesOf_stripped]
  · simp [bodiesOf, hmethods]

/-! ## Profiles -/

variable (s) in
/-- All profiles that are there. -/
def profileClaims : List ProfileClaim := s.impls.filterMap ProfileClaim.of?

variable (s) in
/-- The first profile that is there for the struct at a place in a dialect. -/
def profileAt? (i : Nat) (m : Model) (d : Dialect) : Option Profile :=
  (s.profileClaims.find? fun c => c.place? s = some i && c.dialect == d).map (s.profileOf m)

theorem dialect_of_profileAt? {i : Nat} {m : Model} {d : Dialect} {p : Profile}
    (h : s.profileAt? i m d = some p) : p.dialect = d := by
  obtain ⟨c, hfind, rfl⟩ := Option.map_eq_some_iff.1 h
  have hc := List.find?_some hfind
  simp only [Bool.and_eq_true, beq_iff_eq] at hc
  exact hc.2

/-- Of the profiles of a model, the one for a dialect is the first one that is there. -/
theorem filter_claimedProfiles (d : Dialect) (i : Nat) (m : Model) :
    (s.claimedProfiles s.profileClaims i m).filter (·.dialect == d) = (s.profileAt? i m d).toList := by
  -- At most one profile is there for each dialect, and only that of the dialect asked for is kept.
  have hentry (d' : Dialect) : (s.profileAt? i m d').filter (·.dialect == d) =
      if d' = d then s.profileAt? i m d' else none := by
    cases hp : s.profileAt? i m d' with
    | none => simp
    | some p => simp [Option.filter, dialect_of_profileAt? hp]
  have hall : s.claimedProfiles s.profileClaims i m = Dialect.all.filterMap (s.profileAt? i m) := rfl
  rw [hall, List.filter_filterMap]
  simp only [hentry]
  cases d with
  | sqlServer => cases h : s.profileAt? i m .sqlServer <;> simp [Dialect.all, h]
  | postgres => cases h : s.profileAt? i m .postgres <;> simp [Dialect.all, h]

/-- The profile of a model for another dialect is the same. -/
theorem SameBut.profileAt? (h : s.SameBut d.other s') (i : Nat) (m : Model) :
    s'.profileAt? i m d = s.profileAt? i m d := by
  have hclaims : s'.profileClaims.filter (·.dialect == d) = s.profileClaims.filter (·.dialect == d) :=
    h.profileClaims d.ne_other
  -- The profiles for the other dialect can be left out before the search.
  have hfind (t : SourceSet) : t.profileAt? i m d =
      ((t.profileClaims.filter (·.dialect == d)).find? fun c => c.place? t = some i).map
        (t.profileOf m) := by
    rw [SourceSet.profileAt?, List.find?_filter]
    congr 2
    funext c
    rw [Bool.eq_iff_iff]
    simp [and_comm]
  rw [hfind, hfind, hclaims]
  simp only [h.place?]
  cases hc : (s.profileClaims.filter (·.dialect == d)).find? fun c => c.place? s = some i with
  | none => rfl
  | some c =>
    have hdialect : c.dialect = d := by simpa using (List.mem_filter.1 (List.mem_of_find?_eq_some hc)).2
    simp only [Option.map_some, h.profileOf m (congrArg Dialect.other hdialect)]

/-! ## Models -/

variable (s) in
/-- The models of all structs that can be one, with their places, in the order of the structs. -/
def models : List (Nat × Model) :=
  (s.modelsOf (s.impls.filterMap s.claim?)).filterMap fun x => x.2.toOption.map (x.1, ·)

theorem mem_models {i : Nat} {m : Model} : (i, m) ∈ s.models ↔ s.modelAt? i = some (.ok m) := by
  rw [models, List.mem_filterMap]
  constructor
  · rintro ⟨⟨j, r⟩, hmem, hr⟩
    obtain ⟨m', hm', heq⟩ := Option.map_eq_some_iff.1 hr
    cases heq
    rw [modelsOf_eq, List.mem_filterMap] at hmem
    obtain ⟨j, -, hj⟩ := hmem
    obtain ⟨r', hr', heq⟩ := Option.map_eq_some_iff.1 hj
    cases heq
    cases r with
    | error e => cases hm'
    | ok m' => exact hr'.trans (by rw [Option.some.inj hm'])
  · intro h
    exact ⟨(i, .ok m), mem_modelsOf h, rfl⟩

theorem SameBut.models (h : s.SameBut d s') : s'.models = s.models := by
  rw [SourceSet.models, SourceSet.models, h.claims, modelsOf, modelsOf, h.structs]

variable (s) in
/-- The models in the order of their names. -/
def sortedModels : List (Nat × Model) :=
  s.models.mergeSort fun a b => (DiscoveredModel.compare ⟨a.2, []⟩ ⟨b.2, []⟩).isLE

theorem discover_models (policy : Policy) : (s.discover policy).models =
    s.sortedModels.map fun x => ⟨x.2, s.profilesAt policy x.1 x.2⟩ := by
  have hsorted := List.map_mergeSort
    (r := fun a b : Nat × Model => (DiscoveredModel.compare ⟨a.2, []⟩ ⟨b.2, []⟩).isLE)
    (s := fun a b : DiscoveredModel => (a.compare b).isLE)
    (f := fun x => ⟨x.2, s.profilesAt policy x.1 x.2⟩) (l := s.models) fun _ _ _ _ => rfl
  rw [sortedModels, hsorted]
  simp only [discover, List.map_map]
  rfl

/-! ## What is wrong with the declarations -/

variable (s) in
/-- What is wrong with a profile, given those in front of it, the last first. -/
def profileProblem? (models : List (Nat × Model)) (before : List ProfileClaim) (c : ProfileClaim) :
    Option Diagnostic :=
  let report (problem : Problem) (name : String) : Diagnostic :=
    ⟨problem, name, none, some c.dialect, c.impl.typeLocation⟩
  if c.arguments.length != 1 then
    some (report (.profileArity c.traitName c.arguments.length) c.name)
  else do
    let i ← c.place? s
    let model ← models.lookup i
    let kept ← before.reverse.find? fun b => b.place? s = some i && b.dialect == c.dialect
    return report (.duplicateProfile kept.name c.name) model.name

theorem profileDiagnostics_cons (models : List (Nat × Model)) (before : List ProfileClaim)
    (c : ProfileClaim) (rest : List ProfileClaim) :
    profileDiagnostics s models before (c :: rest) =
      (s.profileProblem? models before c).toList ++ profileDiagnostics s models (c :: before) rest := by
  rw [profileDiagnostics, profileProblem?]
  split
  · rfl
  · cases hplace : c.place? s with
    | none => rfl
    | some i =>
      cases hmodel : models.lookup i with
      | none => simp [hmodel]
      | some model =>
        cases hkept : before.reverse.find? fun b => b.place? s = some i && b.dialect == c.dialect <;>
          simp [hmodel, hkept]

theorem dialect_of_profileProblem? {models : List (Nat × Model)} {before : List ProfileClaim}
    {c : ProfileClaim} {e : Diagnostic} (h : s.profileProblem? models before c = some e) :
    e.dialect = some c.dialect := by
  rw [profileProblem?] at h
  split at h
  · exact Option.some.inj h ▸ rfl
  · simp only [Option.bind_eq_bind, Option.bind_eq_some_iff, Option.pure_def, Option.some.injEq] at h
    obtain ⟨_, -, _, -, _, -, rfl⟩ := h
    rfl

/-- Profiles for another dialect do not matter for what is wrong with a profile. -/
theorem profileProblem?_filter (models : List (Nat × Model)) (before : List ProfileClaim)
    (c : ProfileClaim) : s.profileProblem? models (before.filter (·.dialect == c.dialect)) c =
      s.profileProblem? models before c := by
  have hfind (i : Nat) : ((before.filter (·.dialect == c.dialect)).reverse.find? fun b =>
      b.place? s = some i && b.dialect == c.dialect) =
        before.reverse.find? fun b => b.place? s = some i && b.dialect == c.dialect := by
    rw [← List.filter_reverse, List.find?_filter]
    congr 1
    funext b
    rw [Bool.eq_iff_iff]
    simp +contextual
  simp only [profileProblem?, hfind]

/-- What is wrong with profiles for a dialect does not depend on those for the other one. -/
theorem filter_profileDiagnostics (models : List (Nat × Model)) (name : String) (d : Dialect)
    (before cs : List ProfileClaim) :
    (profileDiagnostics s models before cs).filter (·.isAbout name d) =
      (profileDiagnostics s models (before.filter (·.dialect == d)) (cs.filter (·.dialect == d))).filter
        (·.isAbout name d) := by
  induction cs generalizing before with
  | nil => rfl
  | cons c cs ih =>
    rw [profileDiagnostics_cons, List.filter_append, ih]
    by_cases hd : c.dialect = d
    · subst hd
      have hhere (xs : List ProfileClaim) : (c :: xs).filter (·.dialect == c.dialect) =
          c :: xs.filter (·.dialect == c.dialect) := by simp
      rw [hhere, hhere, profileDiagnostics_cons, List.filter_append, profileProblem?_filter]
    · -- A profile for the other dialect is in nobody's way, and what is wrong with it is left out.
      have hskip (xs : List ProfileClaim) : (c :: xs).filter (·.dialect == d) =
          xs.filter (·.dialect == d) := by simp [hd]
      have hnone : (s.profileProblem? models before c).toList.filter (·.isAbout name d) = [] := by
        refine List.filter_eq_nil_iff.2 fun e he => ?_
        rw [Diagnostic.isAbout, dialect_of_profileProblem? (Option.mem_toList.1 he)]
        simp [hd]
      rw [hskip, hskip, hnone, List.nil_append]

theorem SameBut.profileDiagnostics (h : s.SameBut d s') (models : List (Nat × Model))
    (before cs : List ProfileClaim) :
    profileDiagnostics s' models before cs = profileDiagnostics s models before cs := by
  induction cs generalizing before with
  | nil => rfl
  | cons c cs ih =>
    rw [profileDiagnostics_cons, profileDiagnostics_cons, ih]
    simp only [profileProblem?, h.place?]

theorem discover_diagnostics (policy : Policy) : (s.discover policy).diagnostics =
    (s.impls.filterMap s.claim?).filterMap (·.diagnostic?) ++
      ((s.modelsOf (s.impls.filterMap s.claim?)).filterMap fun x => match x.2 with
        | .error e => some e
        | .ok _ => none) ++
      profileDiagnostics s s.models [] s.profileClaims ++
      s.models.flatMap fun x => (policy.complete x.2 (s.claimedProfiles s.profileClaims x.1 x.2)).2 := by
  simp only [discover, List.flatMap_map]
  rfl

end SourceSet

/-! ## What follows from profiles -/

namespace DiscoveredModel

variable {m : Model} {enums : List EnumModel} {symbols : SymbolTable} {ps ps' : List Profile} {d : Dialect}

/-- What is wrong with a model in a dialect follows from its profiles for the dialect. -/
theorem filter_analyse (hps : ps'.filter (·.dialect == d) = ps.filter (·.dialect == d)) :
    ((⟨m, ps'⟩ : DiscoveredModel).analyse enums symbols).2.filter (·.isAbout m.name d) =
      ((⟨m, ps⟩ : DiscoveredModel).analyse enums symbols).2.filter (·.isAbout m.name d) := by
  by_cases hmeans : ∃ meanings, m.Means enums meanings
  · obtain ⟨meanings, hmeans⟩ := hmeans
    have hproblems (p : Profile) : (p.problems m meanings symbols).filter (·.isAbout m.name d) =
        if p.dialect == d then p.problems m meanings symbols else [] := by
      split
      next hd =>
        refine List.filter_eq_self.2 fun e he => ?_
        obtain ⟨hmodel, hdialect⟩ := Profile.subject_of_mem_problems he
        simpa [Diagnostic.isAbout, hmodel, hdialect] using hd
      next hd =>
        refine List.filter_eq_nil_iff.2 fun e he => ?_
        obtain ⟨hmodel, hdialect⟩ := Profile.subject_of_mem_problems he
        simpa [Diagnostic.isAbout, hmodel, hdialect] using hd
    have hfilter (ps : List Profile) :
        ((⟨m, ps⟩ : DiscoveredModel).analyse enums symbols).2.filter (·.isAbout m.name d) =
          (if m.capability.hasTable then ps.filter (·.dialect == d) else []).flatMap
            (·.problems m meanings symbols) := by
      rw [analyse_of_means hmeans, tableProfiles, List.filter_flatMap]
      simp only [hproblems]
      split
      · exact (SourceSet.flatMap_filter _ _ _).symm
      · rfl
    rw [hfilter, hfilter, hps]
  · rw [analyse_of_unsupported (not_exists.1 hmeans), analyse_of_unsupported (not_exists.1 hmeans)]

/-- Whether a table is kept back depends on what is wrong with its model and dialect. -/
theorem any_blocks (diagnostics : List Diagnostic) (model : String) (d : Dialect) :
    diagnostics.any (·.blocks model d) = (diagnostics.filter (·.isAbout model d)).any (·.isError) := by
  rw [List.any_filter]
  congr 1
  funext e
  rw [Diagnostic.blocks, Diagnostic.isAbout, Bool.and_assoc, Bool.and_comm, Bool.and_assoc]

/-- What is shown of a model in a dialect follows from its profiles for the dialect, and from what is
wrong with them. -/
theorem filter_generated (hps : ps'.filter (·.dialect == d) = ps.filter (·.dialect == d))
    {diagnostics diagnostics' : List Diagnostic}
    (hdiagnostics : diagnostics'.filter (·.isAbout m.name d) = diagnostics.filter (·.isAbout m.name d)) :
    ((⟨m, ps'⟩ : DiscoveredModel).generated enums symbols diagnostics').filter (·.dialect == some d) =
      ((⟨m, ps⟩ : DiscoveredModel).generated enums symbols diagnostics).filter (·.dialect == some d) := by
  by_cases hmeans : ∃ meanings, m.Means enums meanings
  · obtain ⟨meanings, hmeans⟩ := hmeans
    cases htable : m.capability.hasTable with
    | false => rw [generated_of_rows hmeans htable, generated_of_rows hmeans htable]
    | true =>
      have hentries (p : Profile) :
          ((p.resolve m meanings symbols).table?.map m.generatedTable).filter (·.dialect == some d) =
            if p.dialect == d then (p.resolve m meanings symbols).table?.map m.generatedTable
            else none := by
        cases ht : (p.resolve m meanings symbols).table? with
        | none => simp
        | some t => simp [Model.generatedTable, Option.filter, Profile.dialect_of_table? ht]
      -- Only profiles for the dialect count, and of what is wrong only what is about the model in it.
      have hfilter (ps : List Profile) (diagnostics : List Diagnostic) :
          ((⟨m, ps⟩ : DiscoveredModel).generated enums symbols diagnostics).filter (·.dialect == some d) =
            ((ps.filter (·.dialect == d)).filter fun _ =>
              !(diagnostics.filter (·.isAbout m.name d)).any (·.isError)).filterMap fun p =>
                (p.resolve m meanings symbols).table?.map m.generatedTable := by
        rw [generated_of_tables hmeans htable, List.filter_filterMap, openProfiles,
          List.filterMap_filter, List.filterMap_filter, List.filterMap_filter]
        refine List.filterMap_congr fun p _ => ?_
        simp only [hentries]
        by_cases hd : p.dialect = d
        · subst hd
          simp only [any_blocks, beq_self_eq_true, if_true]
        · simp [hd]
      rw [hfilter, hfilter, hps, hdiagnostics]
  · rw [generated_of_unsupported (not_exists.1 hmeans), generated_of_unsupported (not_exists.1 hmeans)]

end DiscoveredModel

namespace SourceSet

variable {s s' : SourceSet} {d : Dialect}

/-! ## One model -/

section

variable (hnames : (s.structs.map (·.item.name)).Nodup) {i : Nat} {m : Model} (hm : (i, m) ∈ s.models)
  {p : Profile} (hp : s.profileAt? i m d = some p) (policy : Policy)

include hnames hm in
/-- No other model has the name. -/
theorem eq_of_mem_models {x : Nat × Model} (hx : x ∈ s.models) (hname : x.2.name = m.name) :
    x = (i, m) := by
  obtain ⟨j, m'⟩ := x
  have hi := mem_models.1 hm
  have hj := mem_models.1 hx
  obtain ⟨a, c, ha, -, hma⟩ := modelAt?_eq_some_iff.1 hi
  obtain ⟨b, c', hb, -, hmb⟩ := modelAt?_eq_some_iff.1 hj
  have hsame : (s.structs.map (·.item.name))[j]? = (s.structs.map (·.item.name))[i]? := by
    simp only [List.getElem?_map, ha, hb, Option.map_some, ← (Model.ofStruct_eq_ok hma).1,
      ← (Model.ofStruct_eq_ok hmb).1]
    exact congrArg some hname
  have hlength : j < (s.structs.map (·.item.name)).length := by
    simpa using (List.getElem?_eq_some_iff.1 hb).1
  obtain rfl := (List.getElem?_inj hlength hnames).1 hsame
  rw [hi] at hj
  rw [Except.ok.inj (Option.some.inj hj)]

include hp in
/-- A model with a profile has those that are there, and there is nothing to complain about. -/
theorem complete_of_profileAt? : policy.complete m (s.claimedProfiles s.profileClaims i m) =
    (s.claimedProfiles s.profileClaims i m, []) := by
  have hfilter := s.filter_claimedProfiles d i m
  rw [hp] at hfilter
  rw [Policy.complete, if_pos]
  cases hclaimed : s.claimedProfiles s.profileClaims i m with
  | nil => simp [hclaimed] at hfilter
  | cons => rfl

include hp in
theorem filter_profilesAt : (s.profilesAt policy i m).filter (·.dialect == d) = [p] := by
  have hprofiles : s.profilesAt policy i m = s.claimedProfiles s.profileClaims i m :=
    congrArg Prod.fst (complete_of_profileAt? hp policy)
  rw [hprofiles, filter_claimedProfiles, hp]
  rfl

/-- A missing profile is told of by the name of its model. -/
theorem model_of_mem_complete {m' : Model} {claimed : List Profile} {e : Diagnostic}
    (he : e ∈ (policy.complete m' claimed).2) : e.model = m'.name := by
  rw [Policy.complete] at he
  split at he
  · cases he
  · split at he
    · rw [List.mem_singleton.1 he]
    · cases he

include hnames hm hp in
/-- Nothing is said about profiles that a model with a profile might lack. -/
theorem filter_completed : (s.models.flatMap fun x =>
    (policy.complete x.2 (s.claimedProfiles s.profileClaims x.1 x.2)).2).filter (·.isAbout m.name d) =
      [] := by
  rw [List.filter_eq_nil_iff]
  intro e he hkeep
  obtain ⟨x, hx, he⟩ := List.mem_flatMap.1 he
  have hmodel : e.model = m.name := beq_iff_eq.1 (Bool.and_eq_true_iff.1 hkeep).1
  obtain rfl := eq_of_mem_models hnames hm hx ((model_of_mem_complete policy he).symm.trans hmodel)
  rw [complete_of_profileAt? hp] at he
  cases he

include hnames hm hp in
/-- The same is wrong with the declarations that a model with a profile comes from. -/
theorem SameBut.filter_discovered (h : s.SameBut d.other s') :
    (s'.discover policy).diagnostics.filter (·.isAbout m.name d) =
      (s.discover policy).diagnostics.filter (·.isAbout m.name d) := by
  have hnames' : (s'.structs.map (·.item.name)).Nodup := h.structs ▸ hnames
  have hm' : (i, m) ∈ s'.models := h.models ▸ hm
  have hp' : s'.profileAt? i m d = some p := (h.profileAt? i m).trans hp
  have hclaims : s'.profileClaims.filter (·.dialect == d) = s.profileClaims.filter (·.dialect == d) :=
    h.profileClaims d.ne_other
  simp only [discover_diagnostics, List.filter_append, filter_completed hnames hm hp,
    filter_completed hnames' hm' hp']
  rw [filter_profileDiagnostics, filter_profileDiagnostics s.models, hclaims, h.models,
    h.profileDiagnostics, h.claims, modelsOf, modelsOf, h.structs]

include hnames hm hp in
/-- The same is wrong with a model that has a profile. -/
theorem SameBut.filter_diagnosed (h : s.SameBut d.other s') :
    (s'.diagnosed policy).filter (·.isAbout m.name d) =
      (s.diagnosed policy).filter (·.isAbout m.name d) := by
  have hp' : s'.profileAt? i m d = some p := (h.profileAt? i m).trans hp
  have hsorted : s'.sortedModels = s.sortedModels := by rw [sortedModels, sortedModels, h.models]
  have henums : (s'.discover policy).enums = (s.discover policy).enums := congrArg (List.map _) h.enums
  rw [diagnosed, diagnosed, List.filter_append, List.filter_append,
    h.filter_discovered hnames hm hp, discover_models, discover_models, hsorted, List.flatMap_map,
    List.flatMap_map, List.filter_flatMap, List.filter_flatMap, henums, h.symbols]
  refine congrArg _ (List.flatMap_congr fun x hx => ?_)
  by_cases hname : x.2.name = m.name
  · obtain rfl := eq_of_mem_models hnames hm ((List.mergeSort_perm _ _).mem_iff.1 hx) hname
    exact DiscoveredModel.filter_analyse (by
      rw [filter_profilesAt hp, filter_profilesAt hp'])
  · -- What is wrong with another model is not about this one.
    have hnone (ps : List Profile) : (((⟨x.2, ps⟩ : DiscoveredModel).analyse (s.discover policy).enums
        s.symbols).2).filter (·.isAbout m.name d) = [] := by
      refine List.filter_eq_nil_iff.2 fun e he hkeep => hname ?_
      exact (DiscoveredModel.model_of_mem_analyse he).symm.trans
        (beq_iff_eq.1 (Bool.and_eq_true_iff.1 hkeep).1)
    rw [hnone, hnone]

include hnames hm hp in
/-- The same tables of a model that has a profile are generated. -/
theorem SameBut.filter_units (h : s.SameBut d.other s') :
    ((s'.units policy).flatMap (·.generated)).filter (fun e => e.name == m.name && e.dialect == some d) =
      ((s.units policy).flatMap (·.generated)).filter fun e => e.name == m.name && e.dialect == some d := by
  have hp' : s'.profileAt? i m d = some p := (h.profileAt? i m).trans hp
  have hsorted : s'.sortedModels = s.sortedModels := by rw [sortedModels, sortedModels, h.models]
  have henums : (s'.discover policy).enums = (s.discover policy).enums := congrArg (List.map _) h.enums
  have hunits (t : SourceSet) : (t.units policy).flatMap (·.generated) = t.sortedModels.flatMap fun x =>
      (⟨x.2, t.profilesAt policy x.1 x.2⟩ : DiscoveredModel).generated (t.discover policy).enums t.symbols
        (t.diagnosed policy) := by
    rw [units, List.filterMap_eq_flatMap_toList, List.flatMap_assoc, discover_models, List.flatMap_map]
    rfl
  rw [hunits, hunits, hsorted, List.filter_flatMap, List.filter_flatMap, henums, h.symbols]
  refine List.flatMap_congr fun x hx => ?_
  have hentry {ps : List Profile} {diagnostics : List Diagnostic} {e : GeneratedModel}
      (he : e ∈ (⟨x.2, ps⟩ : DiscoveredModel).generated (s.discover policy).enums s.symbols diagnostics) :
      e.name = x.2.name := by
    obtain ⟨_, -, ⟨-, rfl⟩ | ⟨-, _, -, _, -, rfl⟩⟩ := DiscoveredModel.mem_generated_iff.1 he <;> rfl
  by_cases hname : x.2.name = m.name
  · obtain rfl := eq_of_mem_models hnames hm ((List.mergeSort_perm _ _).mem_iff.1 hx) hname
    have hfilter {ps : List Profile} {diagnostics : List Diagnostic} :
        ((⟨m, ps⟩ : DiscoveredModel).generated (s.discover policy).enums s.symbols diagnostics).filter
          (fun e => e.name == m.name && e.dialect == some d) =
        ((⟨m, ps⟩ : DiscoveredModel).generated (s.discover policy).enums s.symbols diagnostics).filter
          (·.dialect == some d) := List.filter_congr fun e he => by simp [hentry he]
    rw [hfilter, hfilter]
    exact DiscoveredModel.filter_generated (by rw [filter_profilesAt hp, filter_profilesAt hp'])
      (h.filter_diagnosed hnames hm hp policy)
  · -- What is shown of another model does not have the name.
    have hnone {ps : List Profile} {diagnostics : List Diagnostic} :
        ((⟨x.2, ps⟩ : DiscoveredModel).generated (s.discover policy).enums s.symbols diagnostics).filter
          (fun e => e.name == m.name && e.dialect == some d) = [] :=
      List.filter_eq_nil_iff.2 fun e he => by simp [hentry he, hname]
    rw [hnone, hnone]

end

/-! ## Runs -/

/-- A profile that somebody wrote is the first one that is there for its model and dialect. -/
theorem exists_of_mem_profiles {policy : Policy} {m : DiscoveredModel} (hm : m ∈ (s.discover policy).models)
    {p : Profile} (hp : p ∈ m.profiles) (hwritten : p.name ≠ none) :
    ∃ i, (i, m.model) ∈ s.models ∧ s.profileAt? i m.model p.dialect = some p := by
  rw [discover_models] at hm
  obtain ⟨⟨i, model⟩, hmem, rfl⟩ := List.mem_map.1 hm
  refine ⟨i, (List.mergeSort_perm _ _).mem_iff.1 hmem, ?_⟩
  rcases mem_profilesAt hp with hclaimed | ⟨-, hdefault⟩
  · have hfilter := s.filter_claimedProfiles p.dialect i model
    have hmem : p ∈ (s.claimedProfiles s.profileClaims i model).filter (·.dialect == p.dialect) :=
      List.mem_filter.2 ⟨hclaimed, beq_self_eq_true _⟩
    rw [hfilter] at hmem
    exact Option.mem_toList.1 hmem
  · rw [hdefault] at hwritten
    exact absurd rfl hwritten

/-- Crates that differ only in what is for one dialect are the same to the other. A model that has a profile
for this dialect in one of them is a model of both, with the same profile, the same settings and the same
resolved properties. Just the same is wrong with it, and just the same tables would be generated; that is
what runs show, if they succeed. -/
theorem dialects_separate (h : s.SameBut d.other s') (hnames : (s.structs.map (·.item.name)).Nodup)
    (policy : Policy) {m : DiscoveredModel} (hm : m ∈ (s.discover policy).models) {p : Profile}
    (hp : p ∈ m.profiles) (hd : p.dialect = d) (hwritten : p.name ≠ none) :
    (∃ m' ∈ (s'.discover policy).models, m'.model = m.model ∧
      (∀ m'' ∈ (s'.discover policy).models, m''.model.name = m.model.name → m'' = m') ∧
      m'.profiles.filter (·.dialect == d) = [p] ∧
      p.settings m'.model s'.symbols = p.settings m.model s.symbols ∧
      ∀ meanings, (m'.model.Means (s'.discover policy).enums meanings ↔
          m.model.Means (s.discover policy).enums meanings) ∧
        p.resolve m'.model meanings s'.symbols = p.resolve m.model meanings s.symbols) ∧
    (s'.diagnosed policy).filter (·.isAbout m.model.name d) =
      (s.diagnosed policy).filter (·.isAbout m.model.name d) ∧
    ((s'.units policy).flatMap (·.generated)).filter
        (fun e => e.name == m.model.name && e.dialect == some d) =
      ((s.units policy).flatMap (·.generated)).filter
        (fun e => e.name == m.model.name && e.dialect == some d) ∧
    ∀ g g', s.generate policy = .ok g → s'.generate policy = .ok g' →
      g'.diagnostics.filter (fun e => e.model == m.model.name && e.dialect == some d) =
        g.diagnostics.filter (fun e => e.model == m.model.name && e.dialect == some d) ∧
      g'.models.filter (fun e => e.name == m.model.name && e.dialect == some d) =
        g.models.filter fun e => e.name == m.model.name && e.dialect == some d := by
  subst hd
  obtain ⟨i, hi, hplace⟩ := exists_of_mem_profiles hm hp hwritten
  have hplace' : s'.profileAt? i m.model p.dialect = some p := (h.profileAt? i m.model).trans hplace
  have hi' : (i, m.model) ∈ s'.models := h.models ▸ hi
  have hnames' : (s'.structs.map (·.item.name)).Nodup := h.structs ▸ hnames
  have henums : (s'.discover policy).enums = (s.discover policy).enums := congrArg (List.map _) h.enums
  have hdiagnosed := h.filter_diagnosed hnames hi hplace policy
  have hunits := h.filter_units hnames hi hplace policy
  refine ⟨?_, hdiagnosed, hunits, fun g g' hg hg' => ⟨?_, ?_⟩⟩
  · refine ⟨⟨m.model, s'.profilesAt policy i m.model⟩, ?_, rfl, ?_, filter_profilesAt hplace' policy,
      by rw [h.symbols], fun meanings => ⟨?_, by rw [h.symbols]⟩⟩
    · rw [discover_models]
      exact List.mem_map.2 ⟨(i, m.model), (List.mergeSort_perm _ _).mem_iff.2 hi', rfl⟩
    · intro m'' hm'' hname
      rw [discover_models] at hm''
      obtain ⟨x, hx, rfl⟩ := List.mem_map.1 hm''
      rw [eq_of_mem_models hnames' hi' ((List.mergeSort_perm _ _).mem_iff.1 hx) hname]
    · rw [henums]
  · -- What a run shows is sorted, which leaving the rest out does not disturb.
    have hfilter (ds : List Diagnostic) :
        (Diagnostic.sorted ds).filter (fun e => e.model == m.model.name && e.dialect == some p.dialect) =
          Diagnostic.sorted ((ds.filter (·.isAbout m.model.name p.dialect)).filter
            (·.dialect == some p.dialect)) := by
      rw [Diagnostic.filter_sorted, List.filter_filter]
      congr 1
      refine List.filter_congr fun e _ => ?_
      rw [Diagnostic.isAbout]
      cases e.dialect <;> simp [Bool.and_comm]
    rw [(eq_of_generate hg).1, (eq_of_generate hg').1, hfilter, hfilter, hdiagnosed]
  · rw [models_of_generate hg, models_of_generate hg', hunits]

end SourceSet

/-! ## Orders and items -/

/-- Orders with a profile, and items without one in a program of their own. -/
def orders : SourceSet :=
  ⟨[.publicStruct "orders" "Order" [("id", "i64")],
      { Located.publicStruct "load-items" "Item" [("id", "i64")] with module := ["bin", "load-items"] }],
    [],
    [.traitImpl "orders" "DomainModel" [] "Order" [],
      .traitImpl "orders" "SqlServerProfile" ["Order"] "OrderStore" [],
      { Located.traitImpl "load-items" "BulkModel" [] "Item" [] with module := ["bin", "load-items"] }],
    ⟨[]⟩, []⟩

/-- The orders and the items, and in one of the modules a profile for the other dialect. -/
def ordersArchived (module : List String) (model : String) : SourceSet :=
  { orders with impls := orders.impls ++
      [{ Located.traitImpl "archive" "PostgresProfile" [model] "Archive" [] with module := module }] }

theorem sameBut_ordersArchived (module : List String) (model : String) :
    orders.SameBut .postgres (ordersArchived module model) := ⟨rfl, rfl, rfl, rfl⟩

theorem nodup_orders : (orders.structs.map (·.item.name)).Nodup := by
  show ["Order", "Item"].Nodup
  decide

set_option maxRecDepth 20000 in
/-- The orders have a profile. -/
theorem exists_order : ∃ m ∈ (orders.discover .standard).models, m.model.name = "Order" ∧
    ∃ p ∈ m.profiles, p.dialect = .sqlServer ∧ p.name ≠ none := by
  have horder : (orders.discover .standard).models.any (fun m => m.model.name == "Order" &&
      m.profiles.any fun p => p.dialect == .sqlServer && p.name.isSome) = true := by cbv
  obtain ⟨m, hm, h⟩ := List.any_eq_true.1 horder
  obtain ⟨hname, h⟩ := Bool.and_eq_true_iff.1 h
  obtain ⟨p, hp, h⟩ := List.any_eq_true.1 h
  obtain ⟨hdialect, hwritten⟩ := Bool.and_eq_true_iff.1 h
  exact ⟨m, hm, beq_iff_eq.1 hname, p, hp, beq_iff_eq.1 hdialect, Option.isSome_iff_ne_none.1 hwritten⟩

set_option maxRecDepth 20000 in
/-- A run on the orders shows their table. -/
theorem exists_generate_orders : ∃ g, orders.generate .standard = .ok g ∧
    (g.models.filter fun e => e.name == "Order" && e.dialect == some .sqlServer).length = 1 := by
  have hunits : (fun units : List EmittedModel => (emittedNames units).all Code.isName &&
      ((units.flatMap (·.generated)).filter fun e =>
        e.name == "Order" && e.dialect == some .sqlServer).length == 1)
      (orders.units .standard) = true := by cbv
  obtain ⟨hnames, hlength⟩ := Bool.and_eq_true_iff.1 hunits
  obtain ⟨g, hg⟩ := SourceSet.exists_generate_iff.2 (List.all_eq_true.1 hnames)
  exact ⟨g, hg, by rw [SourceSet.models_of_generate hg]; exact beq_iff_eq.1 hlength⟩

set_option maxRecDepth 20000 in
theorem exists_generate_ordersArchived :
    ∃ g, (ordersArchived ["orders"] "Order").generate .standard = .ok g := by
  have hnames : (emittedNames ((ordersArchived ["orders"] "Order").units .standard)).all Code.isName =
      true := by cbv
  exact SourceSet.exists_generate_iff.2 (List.all_eq_true.1 hnames)

/-- The table of the orders is the same with and without a profile for the other dialect. -/
theorem dialects_separate_orders : ∃ g g', orders.generate .standard = .ok g ∧
    (ordersArchived ["orders"] "Order").generate .standard = .ok g' ∧
    (g.models.filter fun e => e.name == "Order" && e.dialect == some .sqlServer).length = 1 ∧
    g'.models.filter (fun e => e.name == "Order" && e.dialect == some .sqlServer) =
      g.models.filter fun e => e.name == "Order" && e.dialect == some .sqlServer := by
  obtain ⟨g, hg, hlength⟩ := exists_generate_orders
  obtain ⟨g', hg'⟩ := exists_generate_ordersArchived
  obtain ⟨m, hm, hname, p, hp, hd, hwritten⟩ := exists_order
  have hseparate := SourceSet.dialects_separate (d := .sqlServer)
    (sameBut_ordersArchived ["orders"] "Order") nodup_orders .standard hm hp hd hwritten
  rw [hname] at hseparate
  exact ⟨g, g', hg, hg', hlength, (hseparate.2.2.2 g g' hg hg').2⟩

set_option maxRecDepth 20000 in
/-- With a profile the items would be generated, in a module whose name no code can take. -/
theorem not_generate_ordersArchived (g : Generation) :
    (ordersArchived ["bin", "load-items"] "Item").generate .standard ≠ .ok g := by
  have hnames : (emittedNames ((ordersArchived ["bin", "load-items"] "Item").units .standard)).all
      Code.isName = false := by cbv
  intro hg
  rw [List.all_eq_true.2 (SourceSet.exists_generate_iff.1 ⟨g, hg⟩)] at hnames
  cases hnames

/-- A profile for one dialect can keep the tables of the other one from being generated: those of another
model, too, since nothing is when the code for a model cannot be written. -/
theorem not_generated_beside_profile :
    ¬∀ (d : Dialect) (s s' : SourceSet), s.SameBut d.other s' → (s.structs.map (·.item.name)).Nodup →
      ∀ (policy : Policy) (g : Generation), s.generate policy = .ok g →
        ∀ m ∈ (s.discover policy).models, ∀ p ∈ m.profiles, p.dialect = d → p.name ≠ none →
          ∀ e ∈ g.models, e.name = m.model.name → e.dialect = some d →
            ∃ g', s'.generate policy = .ok g' ∧ e ∈ g'.models := by
  intro hall
  obtain ⟨g, hg, hlength⟩ := exists_generate_orders
  obtain ⟨m, hm, hname, p, hp, hd, hwritten⟩ := exists_order
  obtain ⟨e, he⟩ := List.exists_mem_of_length_pos (hlength.symm ▸ Nat.one_pos)
  obtain ⟨he, hentry⟩ := List.mem_filter.1 he
  obtain ⟨hentry, hdialect⟩ := Bool.and_eq_true_iff.1 hentry
  obtain ⟨g', hg', -⟩ := hall .sqlServer orders _ (sameBut_ordersArchived ["bin", "load-items"] "Item")
    nodup_orders .standard g hg m hm p hp hd hwritten e he ((beq_iff_eq.1 hentry).trans hname.symm)
    (beq_iff_eq.1 hdialect)
  exact not_generate_ordersArchived g' hg'

end Tablewright
