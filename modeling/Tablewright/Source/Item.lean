import Tablewright.Source.Expr
import Tablewright.Source.TypeExpr

/-!
# Items

The declarations of a source text that models and profiles are made of: structs, enums, impl blocks,
constants and the modules around them.
-/

namespace Tablewright.Source

/-- A named field. -/
structure Field where
  /-- As written, with `r#` where that stands. -/
  ident : String
  position : Position
  /-- Whether the whole crate sees the field. -/
  reachable : Bool
  type : TypeExpr
  deriving Inhabited

/-- A struct. -/
structure StructItem where
  name : String
  position : Position
  /-- Whether the whole crate sees the struct. -/
  reachable : Bool
  generic : Bool
  /-- The fields, if they have names. -/
  fields : Option (List Field)
  deriving Inhabited

/-- A variant of an enum. -/
structure Variant where
  name : String
  isUnit : Bool
  deriving Inhabited

/-- An enum. -/
structure EnumItem where
  name : String
  /-- The names in its `repr` attributes. -/
  representations : List String
  variants : List Variant
  deriving Inhabited

/-- A function of an impl block. -/
structure Method where
  /-- The texts of its parameters' types; a receiver is none of them. -/
  parameterTypes : List String
  body : Expr
  deriving Inhabited

/-- The trait of an impl block. -/
structure TraitRef where
  name : String
  arguments : List TypeExpr
  deriving Inhabited

/-- An impl block. -/
structure ImplItem where
  ofTrait : Option TraitRef
  type : TypeExpr
  /-- Where the type begins. -/
  typePosition : Position
  methods : List Method
  deriving Inhabited

/-- A constant. -/
structure ConstItem where
  name : String
  value : Expr
  deriving Inhabited

/-- A declaration. -/
inductive Item where
  | struct (s : StructItem)
  | enum (e : EnumItem)
  | impl (i : ImplItem)
  | const (c : ConstItem)
  /-- A module with its content in place. -/
  | module (name : String) (items : List Item)
  /-- Any other declaration. -/
  | other
  deriving Inhabited

end Tablewright.Source
