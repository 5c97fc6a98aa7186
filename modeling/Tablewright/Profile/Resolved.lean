import Tablewright.Profile.Reading
import Tablewright.Table.Basic
import Tablewright.Text.Plural

/-!
# Resolved models

A model together with the settings of one profile: every property with its column, type and settings,
defaults filled in. Where all columns have a type, that is a table.
-/

namespace Tablewright

/-- A property with the column that it gets. -/
structure ResolvedProperty where
  name : String
  meaning : Meaning
  column : String
  /-- None only where the profile would have to say it. -/
  type : Option ColumnType
  /-- Whether the profile names the type. -/
  isExplicit : Bool
  size : Option ColumnSize
  precision : Option Nat
  scale : Option Nat
  nullable : Bool
  default : Option String
  declaredAt : Location
  /-- Where the property is configured, or else declared. -/
  configuredAt : Location

/-- A model with the settings of one profile. -/
structure ResolvedModel where
  dialect : Dialect
  schema : String
  table : String
  keys : List String
  identity : List String
  properties : List ResolvedProperty

/-- The key where the profile names none: a property called `id`, if there is one. -/
def Model.defaultKeys (m : Model) : List String :=
  ((m.properties.find? fun p => Text.eqIgnoreAsciiCase p.name "id").map (·.name)).toList

/-- A property with the settings of a profile. -/
def Property.resolve (p : Property) (meaning : Meaning) (s : ColumnSettings) (d : Dialect)
    (isKey : Bool) : ResolvedProperty where
  name := p.name
  meaning
  column := s.column.getD p.name
  type := s.type <|> meaning.defaultType? d
  isExplicit := s.type.isSome
  size := s.size
  precision := s.precision
  scale := s.scale
  nullable := !isKey && s.nullable.getD p.optional
  default := s.default
  declaredAt := p.location
  configuredAt := s.location.getD p.location

/-- A model with the settings of a profile, given the meanings of its properties. -/
def Model.resolve (m : Model) (meanings : List Meaning) (s : ProfileSettings) (d : Dialect) :
    ResolvedModel :=
  let keys := if s.keys.isEmpty then m.defaultKeys else s.keys
  { dialect := d
    schema := s.schema.getD d.defaultSchema
    table := s.table.getD (Text.plural m.name)
    keys
    identity := s.identity
    properties := (m.properties.zip meanings).map fun (p, meaning) =>
      p.resolve meaning (s.settingsOf p.name) d (keys.contains p.name) }

namespace ResolvedModel

/-- The property of a name. -/
def property? (r : ResolvedModel) (name : String) : Option ResolvedProperty :=
  r.properties.find? (·.name == name)

/-- The column of a property, if it has a type. -/
def columnOf? (p : ResolvedProperty) : Option Column :=
  p.type.map fun type =>
    { property := p.name, name := p.column, type, size := p.size, precision := p.precision
      scale := p.scale, nullable := p.nullable, default := p.default }

/-- The table, if every column has a type. -/
def table? (r : ResolvedModel) : Option Tablewright.Table :=
  (r.properties.mapM columnOf?).map fun columns =>
    { dialect := r.dialect, schema := r.schema, name := r.table, columns, keys := r.keys
      identity := r.identity }

end ResolvedModel

end Tablewright
