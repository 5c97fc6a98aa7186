import Tablewright.Source.StatementRules

/-!
# Rules for the parts of declarations

Who may see a declaration, the signatures of functions, and the definitions of types and constants. Some
forms have no place in the tree of a declaration; the rules say so, and the whole declaration is then
written as it is.
-/

namespace Tablewright.Source

open Tablewright.Source.Parser

namespace Grammar

variable (g : Grammar)

/-! ## Visibility -/

/-- Who may see a declaration. -/
inductive Visibility where
  /-- Only the module it is in. -/
  | inherited
  /-- A part of the crate. -/
  | restricted
  /-- At least the whole crate. -/
  | reachable
  deriving DecidableEq

/-- A visibility with a path between the parentheses. -/
def restrictedVisibility : Parser Visibility := do
  let (path, _) ← inside .paren (do
    word "in"
    let rooted ← sees (Token.op "::")
    return (rooted, ← g.modulePath))
  return if path = (false, ["crate"]) then .reachable else .restricted

/-- Who may see what follows. -/
def visibility : Parser Visibility := do
  if !(← word? "pub") then return .inherited
  match ← upcoming with
  | .group .paren [.ident s _] _ :: _ =>
    if s == "crate" || s == "self" || s == "super" then
      discard anyGroup
      return if s == "crate" then .reachable else .restricted
    else if s == "in" then g.restrictedVisibility
    else return .reachable
  | .group .paren (.ident "in" _ :: _) _ :: _ => g.restrictedVisibility
  | _ => return .reachable

/-! ## Functions -/

/-- What may stand in front of a function; says whether it is `safe`. -/
def qualifiers (allowSafe : Bool) : Parser Bool := do
  discard (word? "const")
  discard (word? "async")
  let isSafe ← if allowSafe then word? "safe" else pure false
  if !isSafe then
    discard (word? "unsafe")
  abi?
  return isSafe

/-- Whether a function's signature comes next. -/
def seesSignature (allowSafe : Bool) : Parser Bool :=
  wouldRead (do
    discard (qualifiers allowSafe)
    word "fn")

/-- A parameter that is the object itself. What goes on as a path is none. -/
def receiver : Parser Unit := do
  let isReference ← op? "&"
  if isReference then
    if ← sees Token.lifetime then
      lifetime
  discard (word? "mut")
  word "self"
  check (!(← sees (Token.op "::")))
  if !isReference then
    if ← op? ":" then
      discard (g.type true)

/-- A parameter of a function. -/
inductive ParameterNode where
  | receiver
  | typed (type : TypeExpr)
  /-- Points, for any number of further parameters. -/
  | variadic

/-- A parameter of a function. One that is a type alone is written with a wildcard for its name. -/
def functionParameter : Parser ParameterNode := do
  discard g.outerAttributes
  if ← op? "..." then return .variadic
  if (← attempt g.receiver).isSome then return .receiver
  if ← sees fun ts => Token.name ts && Token.second (Token.op "<") ts then
    write (.ident "_" .start :: Token.operator ":")
    return .typed (← g.type true).type
  discard g.pattern
  op ":"
  if ← op? "..." then return .variadic
  return .typed (← g.type true).type

/-- The parameters of a function: the types of those with a type. Only the first may be the object. -/
def functionParameters : Parser (List TypeExpr) :=
  rounds g.bound (fun (types, isFirst) => do
    if ← atEnd then return .done types
    match ← g.functionParameter with
    | .variadic =>
      if !(← atEnd) then
        op ","
      return .done types
    | .receiver =>
      check isFirst
      if ← atEnd then return .done types
      op ","
      return .again (types, false)
    | .typed type =>
      let types := types ++ [type]
      if ← atEnd then return .done types
      op ","
      return .again (types, false)) (([] : List TypeExpr), true)

/-- A function that was read. -/
structure FunctionNode where
  isSafe : Bool
  parameterTypes : List TypeExpr
  /-- Its body, unless that is a semicolon. -/
  body : Option Expr

/-- A function. -/
def function (allowSafe : Bool) : Parser FunctionNode := do
  let isSafe ← qualifiers allowSafe
  word "fn"
  discard name
  discard g.generics
  let (types, _) ← inside .paren g.functionParameters
  g.returnType true
  discard g.conditions
  if ← op? ";" then return ⟨isSafe, types, none⟩
  return ⟨isSafe, types, some (← g.attributedBlock)⟩

/-! ## Definitions -/

/-- Where the conditions of a type's definition may stand. -/
inductive ConditionPlace where
  | beforeValue
  | behindValue
  | both
  deriving DecidableEq

/-- The definition of a type: whether it has bounds, and whether it has a value. -/
structure TypeDefinition where
  isBounded : Bool
  isGiven : Bool

/-- The definition of a type. -/
def typeDefinition (place : ConditionPlace) : Parser TypeDefinition := do
  word "type"
  discard name
  discard g.generics
  let isBounded ← sees (Token.op ":")
  if isBounded then
    introduced (op ":") (g.boundsUntil true fun ts =>
      Token.word "where" ts || Token.op "=" ts || Token.op ";" ts)
  let isConditional ← if place = .behindValue then pure false else g.conditions
  let isGiven ← op? "="
  if isGiven then
    discard (g.type true)
  if place != .beforeValue && !isConditional then
    discard g.conditions
  op ";"
  return ⟨isBounded, isGiven⟩

/-- The definition of a constant. -/
structure ConstDefinition where
  name : String
  /-- Whether it depends on parameters or conditions. -/
  isGeneric : Bool
  value : Option Expr

/-- The definition of a constant. -/
def constDefinition : Parser ConstDefinition := do
  word "const"
  let (s, _) ← if ← sees (Token.word "_") then anyName else name
  let parameters ← g.generics
  op ":"
  discard (g.type true)
  let value ← if ← op? "=" then (do pure (some (← g.expr true).expr)) else pure none
  let isConditional ← g.conditions
  op ";"
  return ⟨s, parameters.isWritten || isConditional, value⟩

/-- A macro that stands for declarations. -/
def macroDeclaration (named : Bool) : Parser Unit := do
  discard g.modulePath
  op "!"
  if named then
    if ← sees fun ts => Token.name ts || Token.word "try" ts then
      discard anyName
  let (d, _) ← anyGroup
  if d != .brace then
    op ";"

/-- Whether a macro's path comes next. -/
def seesMacroPath (ts : List Token) : Bool :=
  Token.name ts || Token.word "self" ts || Token.word "super" ts || Token.word "crate" ts ||
    Token.op "::" ts

end Grammar

end Tablewright.Source
