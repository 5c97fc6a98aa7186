import Tablewright.Source.LiteralValue
import Tablewright.Source.Position

/-!
# Expressions

The reduced tree of an expression: the shapes that profiles and constants are made of. Everything else
is `other`, with its position kept so that a message can point at it.
-/

namespace Tablewright.Source

/-- An expression and where it begins; a method call begins at its method's name. -/
inductive Expr where
  | literal (value : LiteralValue) (position : Position)
  /-- A path, by the names of its segments. -/
  | path (segments : List String) (position : Position)
  | field (base : Expr) (member : String) (position : Position)
  | methodCall (receiver : Expr) (method : String) (arguments : List Expr) (position : Position)
  | call (function : Expr) (arguments : List Expr) (position : Position)
  /-- A closure; parameters that are no single name are left out. -/
  | closure (parameters : List String) (body : Expr) (position : Position)
  | reference (inner : Expr) (position : Position)
  | negation (inner : Expr) (position : Position)
  /-- A macro's path and the text between its brackets. -/
  | macroCall (path : List String) (tokens : String) (position : Position)
  /-- The expressions of a block in their order. -/
  | block (statements : List Expr) (position : Position)
  | other (position : Position)
  deriving Inhabited

namespace Expr

/-- Where the expression begins. -/
def position : Expr → Position
  | literal _ p | path _ p | field _ _ p | methodCall _ _ _ p | call _ _ p | closure _ _ p
  | reference _ p | negation _ p | macroCall _ _ p | block _ p | other p => p

/-- The expression, said to begin elsewhere. -/
def movedTo (p : Position) : Expr → Expr
  | literal v _ => literal v p
  | path s _ => path s p
  | field b m _ => field b m p
  | methodCall r m a _ => methodCall r m a p
  | call f a _ => call f a p
  | closure ps b _ => closure ps b p
  | reference e _ => reference e p
  | negation e _ => negation e p
  | macroCall s t _ => macroCall s t p
  | block s _ => block s p
  | other _ => other p

/-- The statements of a block; any other expression is one statement. -/
def statements : Expr → List Expr
  | block s _ => s
  | e => [e]

end Expr

end Tablewright.Source
