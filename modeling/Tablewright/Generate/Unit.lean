import Tablewright.Generate.Code
import Tablewright.Profile.Resolved
import Tablewright.Table.Texts
import Tablewright.Text.Words

/-!
# Units of generated code

What is generated for one model, and the names that this takes: those of modules, constants, functions
that decode enums, and the paths of models and enums.
-/

namespace Tablewright

/-- A model for which code is generated, with the meanings of its properties and its tables. -/
structure EmittedModel where
  model : Model
  meanings : List Meaning
  /-- None for a model of which only rows are read. -/
  tables : List Table

/-- The name of the module for a model's table; with `qualified`, its path is part of the name. -/
def moduleName (m : Model) (d : Dialect) (qualified : Bool) : String :=
  let base := if qualified then String.intercalate "_" (m.module ++ [m.name]) else m.name
  Text.snakeCase base ++ "_" ++ d.name

/-- The name of a property's parameter among the constants. -/
def constantName (property : String) : String := Text.constantCase property

/-- The text with all of a beginning taken off that repeats; the last argument bounds how often. -/
def withoutLead (lead : List Char) : Nat → List Char → List Char
  | 0, s => s
  | fuel + 1, s =>
    match Text.after? lead s with
    | some rest => withoutLead lead fuel rest
    | none => s

/-- The name of the function that decodes an enum. -/
def decoderName (e : EnumRef) : String :=
  let flat := withoutLead "crate::".toList e.path.length e.path.toList
  let joined := ['_'].intercalate (Text.split "::".toList flat)
  "__bulkgen_decode_" ++ Text.snakeCase (String.ofList joined)

/-- The segments of a path. -/
def pathSegments (path : String) : List String :=
  (Text.split "::".toList path.toList).map String.ofList

/-- An enum that is the meaning of a property. -/
def Meaning.enum? : Meaning → Option EnumRef
  | .enum e => some e
  | _ => none

namespace EmittedModel

variable (u : EmittedModel)

/-- The enums of the properties. -/
def enums : List EnumRef := u.meanings.filterMap Meaning.enum?

/-- A property of a name and its meaning. -/
def property? (name : String) : Option (Property × Meaning) :=
  (u.model.properties.zip u.meanings).find? fun (p, _) => p.name == name

/-- The names that the code for the model takes. -/
def names (qualified : Bool) : List String :=
  u.tables.flatMap (fun t => moduleName u.model t.dialect qualified ::
      t.columns.map fun c => constantName c.property) ++
    u.enums.flatMap (fun e => decoderName e :: pathSegments e.path ++ e.variants) ++
    pathSegments u.model.path

end EmittedModel

/-- Models with the knowledge whether their names have to be qualified: a name that several models have
does not tell them apart. -/
def withQualification (units : List EmittedModel) : List (EmittedModel × Bool) :=
  units.map fun u => (u, 1 < units.countP fun v => v.model.name == u.model.name)

/-- The names that the code for models takes. -/
def emittedNames (units : List EmittedModel) : List String :=
  (withQualification units).flatMap fun (u, qualified) => u.names qualified

end Tablewright
