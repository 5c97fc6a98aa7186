import Tablewright.Model.SourceSet

/-!
# Models

A model is a struct of which rows are made. Its properties are the struct's fields; its capability says
what is generated for it. Enums without fields may be the type of a property.
-/

namespace Tablewright

/-- A place in a source file. -/
structure Location where
  file : String
  position : Source.Position
  deriving DecidableEq, Repr, Inhabited

namespace Location

/-- The place as messages show it. -/
def text (l : Location) : String :=
  l.file ++ ":" ++ Text.numeral l.position.line ++ ":" ++ Text.numeral l.position.column

/-- The order of places: by file, then from top to bottom. -/
def compare (a b : Location) : Ordering :=
  (Path.compare a.file b.file).then
    ((Ord.compare a.position.line b.position.line).then
      (Ord.compare a.position.column b.position.column))

end Location

/-- What is generated for a model. -/
inductive Capability where
  /-- Reading rows. -/
  | result
  /-- Also statements on single rows and lists of rows. -/
  | domain
  /-- Also the synchronisation of batches. -/
  | bulk
  deriving DecidableEq, Repr

namespace Capability

/-- The place among the capabilities, the strongest last. -/
def rank : Capability → Nat
  | result => 0
  | domain => 1
  | bulk => 2

/-- The name of the capability. -/
def name : Capability → String
  | result => "Result"
  | domain => "Domain"
  | bulk => "Bulk"

/-- The name of the trait that asks for the capability. -/
def traitName : Capability → String
  | result => "ResultModel"
  | domain => "DomainModel"
  | bulk => "BulkModel"

/-- All capabilities. -/
def all : List Capability := [result, domain, bulk]

/-- The capability that a trait asks for. -/
def ofTrait? (name : String) : Option Capability :=
  all.find? (·.traitName == name)

/-- The stronger of two capabilities. -/
def max (a b : Capability) : Capability := if a.rank < b.rank then b else a

/-- The strongest of capabilities. -/
def strongest? : List Capability → Option Capability
  | [] => none
  | c :: rest => some (rest.foldl max c)

/-- Whether models of the capability have a table. -/
def hasTable (c : Capability) : Bool := c != result

end Capability

/-- A path from the root of the crate. -/
def rootedPath (module : List String) (name : String) : String :=
  String.join ("crate" :: (module ++ [name]).map ("::" ++ ·))

/-- A name without the mark of a raw name. -/
def plainName (ident : String) : String :=
  String.ofList ((Text.after? "r#".toList ident.toList).getD ident.toList)

/-- A field of a model. -/
structure Property where
  /-- The field as it is written. -/
  ident : String
  /-- The field without the mark of a raw name. -/
  name : String
  type : Source.TypeExpr
  /-- The type, without an `Option` around it. -/
  inner : Source.TypeExpr
  optional : Bool
  location : Location
  deriving Inhabited

/-- A struct of which rows are made. -/
structure Model where
  name : String
  module : List String
  capability : Capability
  properties : List Property
  location : Location

namespace Model

/-- The path of the struct. -/
def path (m : Model) : String := rootedPath m.module m.name

/-- The property of a name. -/
def property? (m : Model) (name : String) : Option Property :=
  m.properties.find? (·.name == name)

end Model

/-- An enum that the sources declare. -/
structure EnumModel where
  name : String
  module : List String
  /-- The integer type that a `repr` attribute names. -/
  representation : Option String
  /-- Whether no variant has fields. -/
  unitOnly : Bool
  variants : List String

namespace EnumModel

/-- The path of the enum. -/
def path (e : EnumModel) : String := rootedPath e.module e.name

/-- Whether a name in a `repr` attribute could be that of an integer type. -/
def isIntegerName (name : String) : Bool :=
  name.toList.head? = some 'i' || name.toList.head? = some 'u'

/-- The enum of a declaration. -/
def ofItem (located : Located Source.EnumItem) : EnumModel where
  name := located.item.name
  module := located.module
  representation := located.item.representations.find? isIntegerName
  unitOnly := located.item.variants.all (·.isUnit)
  variants := located.item.variants.map (·.name)

end EnumModel

end Tablewright
