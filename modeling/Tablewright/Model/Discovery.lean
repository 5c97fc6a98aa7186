import Tablewright.Model.Diagnostic

/-!
# Discovery

Models are the structs that capabilities are implemented for; a profile configures the table of one
model in one dialect. `SourceSet.discover` finds both, and says which implementations it cannot use.
-/

namespace Tablewright

/-- What the generator demands and assumes. -/
structure Policy where
  /-- Whether a model with a table has to have a profile. -/
  requireProfile : Bool
  /-- The dialects of models without a profile, where none is demanded. -/
  defaultDialects : List Dialect
  deriving DecidableEq, Repr

/-- The policy where nothing else is said. -/
def Policy.standard : Policy := ⟨true, [.sqlServer]⟩

/-- A block of calls that configure a table. -/
structure ProfileBody where
  file : String
  expr : Source.Expr

/-- The configuration of a model's table in a dialect. -/
structure Profile where
  dialect : Dialect
  /-- The type that implements the profile; none where only defaults hold. -/
  name : Option String
  bodies : List ProfileBody
  location : Location

/-- A model and its profiles. -/
structure DiscoveredModel where
  model : Model
  profiles : List Profile

/-- What was found in the sources. -/
structure Discovery where
  models : List DiscoveredModel
  enums : List EnumModel
  diagnostics : List Diagnostic

/-! ## Names of types -/

/-- Whether a declaration can be meant by a path: it has the name, and its module ends in the modules of
the path. -/
def Located.isNamed (located : Located Source.StructItem) (segments : List String) : Bool :=
  segments.getLast? = some located.item.name &&
    (namedSegments segments.dropLast).isSuffixOf located.module

/-- The place of a declaration that satisfies a condition among those at given places. -/
def firstWhere (structs : List (Located Source.StructItem)) (places : List Nat)
    (p : Located Source.StructItem → Bool) : Option Nat :=
  places.find? fun i => structs[i]?.any p

namespace SourceSet

variable (s : SourceSet)

/-- The place of the struct that a path names; of several, the one in the module `near`, or else the
first. -/
def structPlace? (segments : List String) (near : List String) : Option Nat :=
  let places := (List.range s.structs.length).filter fun i => s.structs[i]?.any (·.isNamed segments)
  match firstWhere s.structs places (·.module == near) with
  | some i => some i
  | none => places.head?

end SourceSet

/-- The place of what an implementation is about. -/
def Located.typeLocation (i : Located Source.ImplItem) : Location :=
  ⟨i.file, i.item.typePosition⟩

/-! ## Models -/

/-- A capability that an implementation asks for. -/
structure CapabilityClaim where
  capability : Capability
  /-- The place of the struct, if there is one. -/
  place : Option Nat
  impl : Located Source.ImplItem

/-- The capability that an implementation asks for. -/
def SourceSet.claim? (s : SourceSet) (i : Located Source.ImplItem) : Option CapabilityClaim := do
  let ofTrait ← i.item.ofTrait
  let capability ← Capability.ofTrait? ofTrait.name
  return ⟨capability, i.item.type.names?.bind (s.structPlace? · i.module), i⟩

/-- What is wrong with a claim for something that is no struct of the crate. -/
def CapabilityClaim.diagnostic? (c : CapabilityClaim) : Option Diagnostic :=
  match c.place with
  | some _ => none
  | none => some ⟨.undeclared c.capability.traitName, c.impl.item.type.name, none, none,
      c.impl.typeLocation⟩

/-- A property of a field. -/
def Property.ofField (file : String) (f : Source.Field) : Property where
  ident := f.ident
  name := plainName f.ident
  type := f.type
  inner := f.type.optionInner?.getD f.type
  optional := f.type.optionInner?.isSome
  location := ⟨file, f.position⟩

/-- What keeps a struct from being a model. Declarations at the root of the crate are seen everywhere. -/
def structProblem? (s : Located Source.StructItem) : Option Problem :=
  let atRoot := s.module.isEmpty
  if s.item.generic then some .genericStruct
  else if !atRoot && !s.item.reachable then some .hiddenStruct
  else
    match s.item.fields with
    | none => some .unnamedFields
    | some fields =>
      if atRoot then none
      else (fields.find? (!·.reachable)).map fun f => .hiddenField (plainName f.ident)

/-- The model of a struct. -/
def Model.ofStruct (s : Located Source.StructItem) (capability : Capability) :
    Except Diagnostic Model :=
  let location : Location := ⟨s.file, s.item.position⟩
  match structProblem? s with
  | some problem => .error ⟨problem, s.item.name, none, none, location⟩
  | none => .ok {
      name := s.item.name
      module := s.module
      capability
      properties := (s.item.fields.getD []).map (Property.ofField s.file)
      location }

/-- The models of a source set by the places of their structs, or what is wrong with them. -/
def SourceSet.modelsOf (s : SourceSet) (claims : List CapabilityClaim) :
    List (Nat × Except Diagnostic Model) :=
  (List.range s.structs.length).filterMap fun i => do
    let capability ← Capability.strongest?
      ((claims.filter fun c => c.place = some i).map (·.capability))
    let located ← s.structs[i]?
    return (i, Model.ofStruct located capability)

/-! ## Profiles -/

/-- The trait of a dialect's profiles. -/
def Dialect.profileTrait : Dialect → String
  | .sqlServer => "SqlServerProfile"
  | .postgres => "PostgresProfile"

/-- The name of a dialect's marker in the types of parameters. -/
def Dialect.markerName : Dialect → String
  | .sqlServer => "SqlServer"
  | .postgres => "Postgres"

/-- The other dialect. -/
def Dialect.other : Dialect → Dialect
  | .sqlServer => .postgres
  | .postgres => .sqlServer

/-- An implementation of a profile. -/
structure ProfileClaim where
  dialect : Dialect
  traitName : String
  arguments : List Source.TypeExpr
  impl : Located Source.ImplItem

/-- The profile that an implementation gives. -/
def ProfileClaim.of? (i : Located Source.ImplItem) : Option ProfileClaim := do
  let ofTrait ← i.item.ofTrait
  let dialect ← Dialect.all.find? (·.profileTrait == ofTrait.name)
  return ⟨dialect, ofTrait.name, ofTrait.arguments, i⟩

namespace ProfileClaim

/-- The place of the struct that the profile is for, if it is for one. -/
def place? (c : ProfileClaim) (s : SourceSet) : Option Nat :=
  match c.arguments with
  | [model] => model.names?.bind (s.structPlace? · c.impl.module)
  | _ => none

/-- The type that implements the profile. -/
def name (c : ProfileClaim) : String := c.impl.item.type.name

end ProfileClaim

/-- The words in the text of a type. -/
def typeWords (text : String) : List String :=
  go [] text.toList
where
  /-- The words, given the characters of the present one, the last first. -/
  go (word : List Char) : List Char → List String
    | [] => flush word
    | c :: rest =>
      if Text.isLetterOrNumber c || c == '_' then go (c :: word) rest
      else flush word ++ go [] rest
  /-- The word of given characters, unless there are none. -/
  flush (word : List Char) : List String :=
    if word.isEmpty then [] else [String.ofList word.reverse]

/-- Whether a function of an implementation beside the profile belongs to it: no parameter is for the
other dialect or configures another model. -/
def Source.Method.applies (m : Source.Method) (dialect : Dialect) (model : String) : Bool :=
  m.parameterTypes.all fun type =>
    let words := typeWords type
    !words.contains dialect.other.markerName &&
      !(words.contains "ProfileBuilder" && !words.contains model)

/-- The bodies of functions. -/
def bodiesOf (i : Located Source.ImplItem) (p : Source.Method → Bool) : List ProfileBody :=
  (i.item.methods.filter p).map fun m => ⟨i.file, m.body⟩

/-- The profile of a claim for a model. -/
def SourceSet.profileOf (s : SourceSet) (model : Model) (c : ProfileClaim) : Profile where
  dialect := c.dialect
  name := some c.name
  bodies :=
    let helpers := s.impls.filter fun i => i.item.ofTrait.isNone && i.item.type.name == c.name
    bodiesOf c.impl (fun _ => true) ++
      helpers.flatMap fun i => bodiesOf i (·.applies c.dialect model.name)
  location := c.impl.typeLocation

/-- What is wrong with claims, given those in front of them, the last first: one is not for one model,
or its model has a profile for the dialect. -/
def profileDiagnostics (s : SourceSet) (models : List (Nat × Model)) :
    List ProfileClaim → List ProfileClaim → List Diagnostic
  | _, [] => []
  | before, c :: rest =>
    let later := profileDiagnostics s models (c :: before) rest
    let report (problem : Problem) (name : String) : List Diagnostic :=
      ⟨problem, name, none, some c.dialect, c.impl.typeLocation⟩ :: later
    if c.arguments.length != 1 then
      report (.profileArity c.traitName c.arguments.length) c.name
    else
      match c.place? s with
      | none => later
      | some i =>
        match models.lookup i with
        | none => later
        | some model =>
          match before.reverse.find? fun b => b.place? s = some i && b.dialect == c.dialect with
          | some kept => report (.duplicateProfile kept.name c.name) model.name
          | none => later

/-- The profiles of a model: the first one for each dialect. -/
def SourceSet.claimedProfiles (s : SourceSet) (claims : List ProfileClaim) (place : Nat) (model : Model) :
    List Profile :=
  Dialect.all.filterMap fun d =>
    (claims.find? fun c => c.place? s = some place && c.dialect == d).map (s.profileOf model)

/-- A profile that configures nothing. -/
def Profile.default (model : Model) (d : Dialect) : Profile := ⟨d, none, [], model.location⟩

/-- The profiles of a model, by the policy where it claims none, or what is wrong. -/
def Policy.complete (policy : Policy) (model : Model) (claimed : List Profile) :
    List Profile × List Diagnostic :=
  if !claimed.isEmpty || !model.capability.hasTable then (claimed, [])
  else if policy.requireProfile then
    ([], [⟨.missingProfile, model.name, none, none, model.location⟩])
  else (policy.defaultDialects.map (Profile.default model), [])

/-! ## Everything -/

/-- The order of lists of names. -/
def compareNames : List String → List String → Ordering
  | [], [] => .eq
  | [], _ :: _ => .lt
  | _ :: _, [] => .gt
  | a :: as, b :: bs => (compare a b).then (compareNames as bs)

/-- The order of models: by name, then by module. -/
def DiscoveredModel.compare (a b : DiscoveredModel) : Ordering :=
  (Ord.compare a.model.name b.model.name).then (compareNames a.model.module b.model.module)

/-- The models of the sources with their profiles, the enums, and what is wrong. -/
def SourceSet.discover (s : SourceSet) (policy : Policy) : Discovery :=
  let claims := s.impls.filterMap s.claim?
  let made := s.modelsOf claims
  let models := made.filterMap fun (i, m) => m.toOption.map (i, ·)
  let rejected := made.filterMap fun (_, m) => match m with
    | .error d => some d
    | .ok _ => none
  let profileClaims := s.impls.filterMap ProfileClaim.of?
  let completed := models.map fun (i, m) =>
    (m, policy.complete m (s.claimedProfiles profileClaims i m))
  { models := (completed.map fun (m, profiles, _) => (⟨m, profiles⟩ : DiscoveredModel)).mergeSort
      fun a b => (a.compare b).isLE
    enums := s.enums.map EnumModel.ofItem
    diagnostics := claims.filterMap (·.diagnostic?) ++ rejected ++
      profileDiagnostics s models [] profileClaims ++ completed.flatMap fun (_, _, ds) => ds }

end Tablewright
