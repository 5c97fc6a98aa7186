import Tablewright.Path
import Tablewright.Profile.Constant
import Tablewright.Source.File

/-!
# Source sets

The declarations of all source files of a crate, each with the module and the file that it is in.
Files that the generator wrote are left out.
-/

namespace Tablewright

/-- A declaration and where it is. -/
structure Located (α : Type) where
  item : α
  /-- The module path from the root of the crate. -/
  module : List String
  file : String

/-- The declarations of a crate, in the order of their files. -/
structure SourceSet where
  structs : List (Located Source.StructItem)
  enums : List (Located Source.EnumItem)
  impls : List (Located Source.ImplItem)
  symbols : SymbolTable
  files : List String

/-- How every generated file begins. -/
def generatedHeader : String := "// @generated by bulkgen"

namespace SourceSet

/-- No declarations. -/
def empty : SourceSet := ⟨[], [], [], ⟨[]⟩, []⟩

/-- The declarations of one set and then those of another. -/
def append (a b : SourceSet) : SourceSet where
  structs := a.structs ++ b.structs
  enums := a.enums ++ b.enums
  impls := a.impls ++ b.impls
  symbols := ⟨a.symbols.symbols ++ b.symbols.symbols⟩
  files := a.files ++ b.files

mutual

/-- The declarations in a declaration. -/
def ofItem (file : String) (module : List String) : Source.Item → SourceSet
  | .struct s => { empty with structs := [⟨s, module, file⟩] }
  | .enum e => { empty with enums := [⟨e, module, file⟩] }
  | .impl i => { empty with impls := [⟨i, module, file⟩] }
  | .const c => { empty with symbols := ⟨[⟨module, c.name, c.value⟩]⟩ }
  | .module name items => ofItems file (module ++ [name]) items
  | .other => empty

/-- The declarations in declarations. -/
def ofItems (file : String) (module : List String) : List Source.Item → SourceSet
  | [] => empty
  | i :: rest => append (ofItem file module i) (ofItems file module rest)

end

/-- Whether a text was written by the generator. -/
def isGenerated (text : String) : Bool :=
  Text.startsWith generatedHeader.toList (Text.trimStart text.toList)

/-- The set with the declarations of one more file; none if the file does not parse. -/
def insert? (s : SourceSet) (file : String) (module : List String) (text : String) : Option SourceSet :=
  if isGenerated text then some s
  else (Source.Item.ofFile? text).map fun items =>
    s.append { ofItems file module items with files := [file] }

end SourceSet

end Tablewright
