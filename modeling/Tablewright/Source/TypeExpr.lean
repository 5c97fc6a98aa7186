/-!
# Types of a source text

A type by its text and as far as models look into it: the names of a path and the types between the
angle brackets of its last segment.
-/

namespace Tablewright.Source

/-- A type with its text. -/
inductive TypeExpr where
  /-- A path. `qualified` ones begin with a type in angle brackets; `arguments` are those of the last
  segment, each of them a type or something else. -/
  | path (text : String) (qualified : Bool) (names : List String)
      (arguments : Option (List (Option TypeExpr)))
  /-- A type in parentheses. -/
  | paren (text : String) (inner : TypeExpr)
  | other (text : String)
  deriving Inhabited

namespace TypeExpr

/-- The text of the type. -/
def text : TypeExpr → String
  | path s _ _ _ | paren s _ | other s => s

/-- The names of a path, seen through parentheses. -/
def names? : TypeExpr → Option (List String)
  | path _ qualified names _ => if qualified then none else some names
  | paren _ inner => inner.names?
  | other _ => none

/-- The last name of a path, or the text of any other type. -/
def name (t : TypeExpr) : String :=
  (t.names?.bind List.getLast?).getD t.text

/-- The type inside an `Option`. -/
def optionInner? : TypeExpr → Option TypeExpr
  | path _ _ names (some [some inner]) => if names.getLast? = some "Option" then some inner else none
  | _ => none

end TypeExpr

end Tablewright.Source
