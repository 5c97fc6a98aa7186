import Tablewright.ColumnType
import Tablewright.Number.Power
import Tablewright.Source.Expr
import Tablewright.Text.Blank
import Tablewright.Text.Letter

/-!
# Constants

The values that arguments of a profile can have: literals, constants declared anywhere in the sources,
column types, and names by `stringify!`. A constant that is defined by itself has no value.
-/

namespace Tablewright

/-- The value of an argument. -/
inductive Constant where
  | text (s : String)
  | int (n : Int)
  | float (x : Double)
  | bool (b : Bool)
  | columnType (t : ColumnType)
  /-- A name among the column types of a dialect that is none of them. -/
  | unknownColumnType (path : String)
  deriving DecidableEq

namespace Constant

/-- What kind of value this is, in a message. -/
def description : Constant → String
  | text _ => "a string"
  | int _ => "an integer"
  | float _ => "a float"
  | bool _ => "a bool"
  | columnType _ => "a column type"
  | unknownColumnType _ => "an unknown column type"

/-- The number below which whole numbers are read. -/
def intLimit : Nat := twoTo 127

/-- The value of a literal. -/
def ofLiteral? : Source.LiteralValue → Option Constant
  | .text s => some (text s)
  | .int n => if n < intLimit then some (int n) else none
  | .float x => some (float x)
  | .bool b => some (bool b)
  | .other => none

/-- The value with its sign changed. -/
def negated? : Constant → Option Constant
  | int n => some (int (-n))
  | float x => some (float x.neg)
  | _ => none

/-- The name that `stringify!` is given, without the mark of a raw name. -/
def symbolicName? (tokens : String) : Option String :=
  let tokens := Text.trim tokens.toList
  let name := (Text.after? "r#".toList tokens).getD tokens
  match name with
  | first :: rest =>
    if (Text.isLetter first || first == '_') && rest.all fun c => Text.isLetterOrNumber c || c == '_' then
      some (String.ofList name)
    else none
  | [] => none

/-- The value of an expression, given the values of paths. -/
def ofExpr? (ofPath? : List String → Option Constant) : Source.Expr → Option Constant
  | .literal v _ => ofLiteral? v
  | .negation e _ => (ofExpr? ofPath? e).bind negated?
  | .reference e _ => ofExpr? ofPath? e
  | .macroCall path tokens _ =>
    if path.getLast? = some "stringify" then (symbolicName? tokens).map text else none
  | .path segments _ => ofPath? segments
  | _ => none

/-- The column type that a path ends in, known or not. -/
def columnTypeOfPath? (segments : List String) : Option Constant :=
  match segments.reverse with
  | variant :: enum :: _ =>
    match ColumnType.ofPath? enum variant with
    | some t => some (columnType t)
    | none =>
      (ColumnType.dialectOfEnum? enum).map fun _ => unknownColumnType (enum ++ "::" ++ variant)
  | _ => none

end Constant

/-- Segments of a path that say nothing about modules by name. -/
def relativeSegments : List String := ["crate", "self", "super"]

/-- The segments of a path that name modules. -/
def namedSegments (qualifier : List String) : List String :=
  qualifier.filter fun s => !relativeSegments.contains s

/-- A constant that the sources declare. -/
structure Symbol where
  /-- The module path from the root of the crate. -/
  module : List String
  name : String
  value : Source.Expr

/-- The full name of a constant. -/
def Symbol.key (s : Symbol) : String :=
  String.intercalate "::" s.module ++ "::" ++ s.name

/-- All constants of the sources, in the order in which they were found. -/
structure SymbolTable where
  symbols : List Symbol

namespace SymbolTable

/-- The number of constants. -/
def size (t : SymbolTable) : Nat := t.symbols.length

/-- The table with one more constant. -/
def insert (t : SymbolTable) (s : Symbol) : SymbolTable := ⟨t.symbols ++ [s]⟩

/-- The constant that a path names: the only one of its name, or the only one of those whose module
ends in the modules of the path. -/
def find? (t : SymbolTable) (segments : List String) : Option Symbol :=
  match segments.getLast? with
  | none => none
  | some name =>
    match t.symbols.filter (·.name == name) with
    | [only] => some only
    | candidates =>
      let modules := namedSegments segments.dropLast
      if modules.isEmpty then none
      else
        match candidates.filter fun c => modules.isSuffixOf c.module with
        | [only] => some only
        | _ => none

/-- The value of a path, given the constants that are being followed. Following one more makes the
first argument smaller; more than the number of constants is never needed. -/
def valueOfPath? (t : SymbolTable) : Nat → List String → List String → Option Constant
  | 0, _, _ => none
  | fuel + 1, followed, segments =>
    match Constant.columnTypeOfPath? segments with
    | some c => some c
    | none =>
      match t.find? segments with
      | none => none
      | some s =>
        if followed.contains s.key then none
        else Constant.ofExpr? (valueOfPath? t fuel (s.key :: followed)) s.value

/-- The value of an expression. -/
def fold? (t : SymbolTable) (e : Source.Expr) : Option Constant :=
  Constant.ofExpr? (t.valueOfPath? (t.size + 1) []) e

end SymbolTable

end Tablewright
