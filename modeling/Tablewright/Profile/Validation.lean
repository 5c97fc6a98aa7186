import Tablewright.Profile.Resolved

/-!
# Validation

What is wrong with a resolved model: types of another dialect or family, settings that are missing or
out of range, keys. A property is complained about at most once, but for its identity.
-/

namespace Tablewright

namespace ResolvedProperty

variable (p : ResolvedProperty)

/-- What is wrong with the type that the profile names. -/
def typeProblem? (d : Dialect) : Option Problem :=
  match p.type with
  | some t =>
    if !p.isExplicit then none
    else if t.dialect != d then some (.otherDialect t)
    else if t.family != p.meaning.family then some (.otherFamily t)
    else none
  | none => none

/-- The settings that only the profile can give and does not. -/
def missing : List String :=
  let lacksType := if p.type.isNone then ["a dialect type"] else []
  match p.meaning with
  | .text | .bytes =>
    lacksType ++ if p.type.all (·.takesSize) && p.size.isNone then ["a size"] else []
  | .decimal =>
    lacksType ++ (if p.precision.isNone then ["a precision"] else []) ++
      if p.scale.isNone then ["a scale"] else []
  | _ => []

/-- What is wrong with the precision and scale of a type that takes them. -/
def precisionProblem? : Option Problem :=
  match p.precision with
  | some precision =>
    if !p.type.any (·.takesPrecision) then none
    else if precision == 0 || maxPrecision < precision then some (.precisionOutOfRange precision)
    else if p.scale.any (precision < ·) then some .scaleAbovePrecision
    else none
  | none => none

/-- What is wrong with a property whose values the store assigns. -/
def identityProblem? (identity : List String) : Option Problem :=
  if identity.contains p.name && p.meaning.family != .integer then some .identityNotInteger else none

/-- What is wrong with the property. -/
def problems (d : Dialect) (identity : List String) : List Problem :=
  match p.typeProblem? d with
  | some problem => [problem]
  | none =>
    if p.missing.isEmpty then p.precisionProblem?.toList ++ (p.identityProblem? identity).toList
    else [.missingSettings p.missing]

/-- Where a problem is: missing settings are missing where the property is declared. -/
def placeOf (problem : Problem) : Location :=
  if problem.kind = .missingConfiguration then p.declaredAt else p.configuredAt

end ResolvedProperty

/-- What is wrong with the key of a table. -/
def ResolvedModel.keyProblem? (r : ResolvedModel) : Option Problem :=
  if r.keys.isEmpty then some .missingKey
  else if r.keys.all fun k => r.identity.contains k then some .upsertInfeasible
  else none

/-- What is wrong with a resolved model. -/
def ResolvedModel.validate (r : ResolvedModel) (m : Model) : List Diagnostic :=
  let aboutProperties := r.properties.flatMap fun p =>
    (p.problems r.dialect r.identity).map fun problem =>
      (⟨problem, m.name, some p.name, some r.dialect, p.placeOf problem⟩ : Diagnostic)
  let aboutKey := if m.capability.hasTable then r.keyProblem?.toList else []
  aboutProperties ++ aboutKey.map fun problem => ⟨problem, m.name, none, some r.dialect, m.location⟩

/-- The meanings of a model's properties, or what is wrong with their types. -/
def Model.meanings (m : Model) (enums : List EnumModel) :
    List (Except Diagnostic Meaning) :=
  m.properties.map fun p =>
    (Meaning.ofType enums p.inner).mapError fun reason =>
      ⟨.unsupportedType reason, m.name, some p.name, none, p.location⟩

end Tablewright
