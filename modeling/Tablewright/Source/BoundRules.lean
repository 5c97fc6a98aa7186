import Tablewright.Source.PathRules

/-!
# Rules for bounds and parameters

What a type has to satisfy: traits, lifetimes and captures with plus signs between them. The parameters
of declarations and of types that hold for all of something, and conditions on them.
-/

namespace Tablewright.Source

open Tablewright.Source.Parser

namespace Grammar

variable (g : Grammar)

/-! ## Bounds -/

/-- Parameters that what follows holds for; says whether there are any. -/
def binder? : Parser Bool := do
  if ← sees (Token.word "for") then
    g.binder
    return true
  return false

/-- The type behind an arrow, if there is one. -/
def returnType (plus : Bool) : Parser Unit := do
  if ← op? "->" then
    discard (g.type plus)

/-- The arguments of a function trait, and what it returns. -/
def functionArguments : Parser Unit := do
  discard (inside .paren (separatedToEnd g.bound "," (g.type true)))
  g.returnType false

/-- The path of a trait, which may be one of the traits for functions. Those drop empty angle brackets
and the two colons in front of their arguments. -/
def traitPath : Parser Unit := do
  let p ← g.path false
  let isFunction ← sees fun ts =>
    Token.opened .paren ts || (Token.op "::" ts && Token.third (Token.opened .paren) ts)
  if p.endsPlain && isFunction then
    write p.withoutLastArguments.tokens
    discard (silently (op? "::"))
    g.functionArguments
  else
    write p.tokens

/-- A trait in a bound. Says whether it begins with `const`, which needs `allowConst`. -/
def traitBound (allowConst : Bool) : Parser Bool := do
  let isBound ← g.binder?
  let isConst ← sees fun ts => Token.opened .bracket ts || Token.word "const" ts
  check (allowConst || !isConst)
  if isConst then
    if !(← word? "const") then
      discard (inside .bracket (word "const"))
  let isRelaxed ← op? "?"
  let isBoundBehind ← if isBound || !isRelaxed then pure false else g.binder?
  check (!isRelaxed || !(isBound || isBoundBehind))
  g.traitPath
  return isConst

/-- A name or lifetime that an `impl` type captures; says whether it is a lifetime. -/
def captured : Parser (Bool × Unit) := do
  if ← sees Token.lifetime then
    lifetime
    return (true, ())
  check (← sees fun ts => Token.name ts || Token.word "Self" ts)
  discard anyName
  return (false, ())

/-- The captures of an `impl` type. -/
def capture : Parser Unit := do
  word "use"
  discard (angled g.bound captured)

/-- One bound; says whether it is a trait. One with `const` is written as it is. -/
def singleBound (allowCapture allowConst : Bool) : Parser Bool := do
  if ← sees Token.lifetime then
    lifetime
    return false
  if ← sees (Token.word "use") then
    check allowCapture
    g.capture
    return false
  let before ← get
  let isConst ← if ← sees (Token.opened .paren) then
      Prod.fst <$> inside .paren (g.traitBound allowConst)
    else g.traitBound allowConst
  if isConst then
    verbatimSince before
  return true

/-- Bounds with plus signs between them, until something stops them. -/
def boundsUntil (allowConst : Bool) (stop : List Token → Bool) : Parser Unit :=
  separatedUntil g.bound "+" stop (discard (g.singleBound false allowConst))

/-- Lifetimes with plus signs between them, until something stops them. -/
def lifetimesUntil (stop : List Token → Bool) : Parser Unit :=
  separatedUntil g.bound "+" stop lifetime

/-- Whether another bound follows a plus sign. -/
def seesBound (allowConst : Bool) (ts : List Token) : Bool :=
  Token.anyName ts || Token.op "::" ts || Token.op "?" ts || Token.lifetime ts ||
    Token.opened .paren ts || (allowConst && Token.opened .bracket ts)

/-- The bounds of a trait object or an `impl` type; one of them has to be a trait. -/
def objectBounds (plus allowCapture allowConst : Bool) : Parser Unit := do
  let isTrait ← rounds g.bound (fun isTrait => do
    let isTrait := (← g.singleBound allowCapture allowConst) || isTrait
    if !(plus && (← sees (Token.op "+"))) then return .done isTrait
    op "+"
    if ← sees (seesBound allowConst) then return .again isTrait
    return .done isTrait) false
  check isTrait

/-- More bounds behind the first one of a trait object. -/
def moreBounds : Parser Unit :=
  rounds g.bound (fun () => do
    if !(← op? "+") then return .done ()
    discard (g.singleBound false false)
    return .again ()) ()

/-! ## Parameters -/

/-- A literal or a block in place of a type. -/
def constArgument : Parser Unit := do
  if ← sees Token.literalNext then
    discard literal
  else
    discard (inside .brace (do
      g.innerAttributes
      g.statements))

/-- A parameter that is a lifetime. -/
def lifetimeParameter : Parser Unit := do
  lifetime
  if ← sees (Token.op ":") then
    introduced (op ":") (g.lifetimesUntil fun ts => Token.op "," ts || Token.op ">" ts)

/-- A parameter that is a type. -/
def typeParameter : Parser Unit := do
  discard name
  if ← sees (Token.op ":") then
    introduced (op ":") (g.boundsUntil true fun ts =>
      Token.op "," ts || Token.op ">" ts || Token.op "=" ts)
  if ← op? "=" then
    discard (g.type true)

/-- A parameter that stands for a value. -/
def constParameter : Parser Unit := do
  word "const"
  discard name
  op ":"
  discard (g.type true)
  if ← op? "=" then
    if ← sees Token.name then discard name else g.constArgument

/-- A parameter; says whether it is a lifetime. Only declarations have parameters without a name. -/
def parameter (mayBeUnnamed : Bool) : Parser (Bool × Unit) := do
  discard g.outerAttributes
  if ← sees Token.lifetime then
    g.lifetimeParameter
    return (true, ())
  if ← sees Token.name then
    g.typeParameter
  else if ← sees (Token.word "const") then
    g.constParameter
  else
    check mayBeUnnamed
    word "_"
  return (false, ())

/-- The parameters that a type, a bound or a closure holds for, in the order they stand in. -/
def binderRule : Parser Unit := do
  word "for"
  op "<"
  separatedUntil g.bound "," (Token.op ">") (discard (g.parameter false))
  op ">"

/-- What the angle brackets behind a declared name hold. -/
structure Generics where
  /-- Whether the brackets are there. -/
  isWritten : Bool
  count : Nat

/-- The parameters of a declaration. Empty brackets are not written. -/
def generics : Parser Generics := do
  if !(← sees (Token.op "<")) then return ⟨false, 0⟩
  let (parameters, tokens) ← collect (angled g.bound (g.parameter true))
  if !parameters.isEmpty then
    write tokens
  return ⟨true, parameters.length⟩

/-! ## Conditions -/

/-- Whether conditions end. -/
def conditionEnds (ts : List Token) : Bool :=
  ts.isEmpty || Token.opened .brace ts || Token.op "," ts || Token.op ";" ts ||
    (Token.op ":" ts && !Token.op "::" ts) || Token.op "=" ts

/-- A condition on a lifetime or a type. -/
def condition : Parser Unit := do
  if ← sees fun ts => Token.lifetime ts && Token.second (Token.op ":") ts then
    lifetime
    op ":"
    g.lifetimesUntil conditionEnds
  else
    discard g.binder?
    discard (g.type true)
    op ":"
    g.boundsUntil true conditionEnds

/-- The conditions of a declaration; says whether they are announced. They cannot begin with what looks
like parameters, and none at all are not written. -/
def conditions : Parser Bool := do
  if !(← sees (Token.word "where")) then return false
  introduced (word "where") do
    check (!(← sees seesGenerics))
    separatedUntil g.bound "," conditionEnds g.condition
  return true

end Grammar

end Tablewright.Source
