import Tablewright.Source.Item
import Tablewright.Source.Parser

/-!
# The parsers that need each other

Types, patterns, expressions and items contain each other. A `Grammar` holds one parser for each place
where they do; the rules are written over a given grammar and contain no recursion themselves.
-/

namespace Tablewright.Source

/-- What kind of type was read. -/
inductive TypeShape where
  /-- A path; `qualified` ones begin with a type in angle brackets. -/
  | path (qualified : Bool) (names : List String) (arguments : Option (List (Option TypeExpr)))
  | paren (inner : TypeExpr)
  /-- A trait object that is one bound and nothing else; whether parentheses enclose the bound. -/
  | bound (enclosed : Bool)
  | other
  deriving Inhabited

/-- The type of a shape, with its text. -/
def TypeShape.toType (text : String) : TypeShape → TypeExpr
  | path qualified names arguments => .path text qualified names arguments
  | paren inner => .paren text inner
  | bound _ | other => .other text

/-- A type that was read. -/
structure TypeNode where
  shape : TypeShape
  type : TypeExpr
  /-- Where its first token is. -/
  start : Position
  deriving Inhabited

/-- What kind of expression was read, as far as what may follow depends on it. -/
inductive ExprShape where
  | plain
  /-- A range cannot be an operand of what follows. -/
  | range
  /-- A comparison cannot be compared again. -/
  | comparison
  /-- Ends a statement without a semicolon. -/
  | blockLike
  /-- A macro with braces ends a statement, but goes on with operators. -/
  | braceMacro
  deriving DecidableEq, Inhabited

/-- An expression that was read. -/
structure ExprNode where
  expr : Expr
  /-- Where its first token is, parentheses and attributes included. -/
  start : Position
  shape : ExprShape
  /-- Whether the expression's own position is that of its first token. -/
  ownsStart : Bool
  /-- Whether it begins with something that is written as it is and has no place for attributes. -/
  isVerbatim : Bool := false
  deriving Inhabited

/-- A pattern that was read. -/
structure PatternNode where
  /-- The name that the pattern binds, if it is nothing else; an underscore for a wildcard. -/
  name : Option String := none
  /-- Two points alone. -/
  isRest : Bool := false
  /-- A range without one of its ends. -/
  isOpenRange : Bool := false
  /-- Whether it is written as it is and has no place for attributes. -/
  isVerbatim : Bool := false
  deriving Inhabited

/-- Strength of binary operators. -/
inductive Precedence where
  | least | assign | range | or | and | compare | bitOr | bitXor | bitAnd | shift | sum | product | cast
  deriving DecidableEq, Inhabited

/-- The place among the strengths. -/
def Precedence.rank : Precedence → Nat
  | least => 0
  | assign => 1
  | range => 2
  | or => 3
  | and => 4
  | compare => 5
  | bitOr => 6
  | bitXor => 7
  | bitAnd => 8
  | shift => 9
  | sum => 10
  | product => 11
  | cast => 12

/-- The parsers that rules refer to. -/
structure Grammar where
  /-- More rounds than any loop over the tokens takes. -/
  bound : Nat
  /-- A type; whether bounds may follow a plus sign. -/
  type : Bool → Parser TypeNode
  /-- Arguments in angle brackets: what each of them is. -/
  arguments : Parser (List (Option TypeExpr))
  /-- The parameters that a type, a bound or a closure holds for. -/
  binder : Parser Unit
  pattern : Parser PatternNode
  /-- An expression; whether it may be a struct with braces. -/
  expr : Bool → Parser ExprNode
  /-- An expression that ends where its first block does: a statement or the body of an arm. -/
  early : Parser ExprNode
  /-- An operand with its prefix operators. -/
  unary : Bool → Parser ExprNode
  /-- What follows an operand, from a given strength on. -/
  operators : Bool → Precedence → ExprNode → Parser ExprNode
  /-- The statements inside braces. -/
  statements : Parser (List Expr)
  item : Parser Item
  /-- What is used; whether its path may begin at the root. Says whether one inside braces does. -/
  useTree : Bool → Parser Bool

end Tablewright.Source
