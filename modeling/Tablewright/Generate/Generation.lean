import Tablewright.Generate.Emit
import Tablewright.Profile.Validation

/-!
# Generation

From the declarations of a crate to its generated code. A model whose properties have types that no
column can hold is left out; a table for which there is an error is left out.
-/

namespace Tablewright

/-- A model, or one of its tables, for which code was generated. -/
structure GeneratedModel where
  name : String
  path : String
  capability : Capability
  /-- None for a model of which only rows are read. -/
  dialect : Option Dialect
  texts : Option TableTexts

/-- What a run of the generator gives. -/
structure Generation where
  code : String
  /-- In the order of their places. -/
  diagnostics : List Diagnostic
  models : List GeneratedModel

namespace Generation

/-- The number of errors. -/
def errorCount (g : Generation) : Nat := g.diagnostics.countP (·.isError)

/-- Whether there are errors. -/
def hasErrors (g : Generation) : Bool := g.diagnostics.any (·.isError)

/-- The diagnostics that are no errors. -/
def warnings (g : Generation) : List Diagnostic := g.diagnostics.filter (!·.isError)

/-- The statements of the first model of a name that has them in a dialect. -/
def textsFor (g : Generation) (model : String) (d : Dialect) : Option TableTexts :=
  (g.models.find? fun m => m.name == model && m.dialect = some d).bind (·.texts)

end Generation

/-- A model whose properties all have a meaning, with its resolved tables. -/
structure AnalysedModel where
  model : Model
  meanings : List Meaning
  tables : List ResolvedModel

/-- A model, if all its properties have a meaning, and what is wrong with it. -/
def DiscoveredModel.analyse (m : DiscoveredModel) (enums : List EnumModel) (symbols : SymbolTable) :
    Option AnalysedModel × List Diagnostic :=
  let read := m.model.meanings enums
  let wrong := read.filterMap fun
    | .error d => some d
    | .ok _ => none
  match read.mapM Except.toOption with
  | none => (none, wrong)
  | some meanings =>
    let profiles := if m.model.capability.hasTable then m.profiles else []
    let resolved := profiles.map fun p =>
      let settings := p.settings m.model symbols
      (m.model.resolve meanings settings p.dialect, settings.diagnostics)
    (some ⟨m.model, meanings, resolved.map (·.1)⟩,
      wrong ++ resolved.flatMap fun (r, ds) => ds ++ r.validate m.model)

namespace AnalysedModel

variable (m : AnalysedModel)

/-- The tables that no error keeps from being generated. -/
def openTables (diagnostics : List Diagnostic) : List Table :=
  (m.tables.filter fun r => !diagnostics.any (·.blocks m.model.name r.dialect)).filterMap (·.table?)

/-- The code to be generated for the model, if any. -/
def emitted? (diagnostics : List Diagnostic) : Option EmittedModel :=
  let tables := if m.model.capability.hasTable then m.openTables diagnostics else []
  if m.model.capability.hasTable && tables.isEmpty then none else some ⟨m.model, m.meanings, tables⟩

end AnalysedModel

/-- What is generated for a model. -/
def EmittedModel.generated (u : EmittedModel) : List GeneratedModel :=
  let entry (dialect : Option Dialect) (texts : Option TableTexts) : GeneratedModel :=
    ⟨u.model.name, u.model.path, u.model.capability, dialect, texts⟩
  if u.model.capability.hasTable then u.tables.map fun t => entry (some t.dialect) (some t.texts)
  else [entry none none]

/-- A run of the generator over the declarations of a crate, or the first name in its code that cannot be
one. -/
def SourceSet.generate (s : SourceSet) (policy : Policy) : Except String Generation :=
  let discovery := s.discover policy
  let analysed := discovery.models.map (·.analyse discovery.enums s.symbols)
  let diagnostics := discovery.diagnostics ++ analysed.flatMap (·.2)
  let units := (analysed.filterMap (·.1)).filterMap (·.emitted? diagnostics)
  match (emittedNames units).find? (!Code.isName ·) with
  | some name => .error name
  | none => .ok {
      code := emit units
      diagnostics := Diagnostic.sorted diagnostics
      models := units.flatMap (·.generated) }

end Tablewright
