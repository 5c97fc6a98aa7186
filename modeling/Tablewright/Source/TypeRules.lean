import Tablewright.Source.BoundRules

/-!
# Rules for types

All forms of types, and arguments in angle brackets. The text of a type is what was written while it
was read.
-/

namespace Tablewright.Source

open Tablewright.Source.Parser

namespace Grammar

variable (g : Grammar)

/-! ## Arguments in angle brackets -/

/-- Whether a constant in place of a type comes next. -/
def seesConstArgument (ts : List Token) : Bool := Token.literalNext ts || Token.opened .brace ts

/-- An argument that is no lifetime: its type, if it is one and neither an equation nor a bound. -/
def otherArgument : Parser (Option TypeExpr) := do
  if ← sees seesConstArgument then
    g.constArgument
    return none
  let rooted ← sees (Token.op "::")
  let t ← g.type true
  let isName := match t.shape with
    | .path false [_] _ => !rooted
    | _ => false
  if !isName then return some t.type
  if ← op? "=" then
    if ← sees seesConstArgument then g.constArgument else discard (g.type true)
    return none
  if ← op? ":" then
    g.boundsUntil true fun ts => Token.op "," ts || Token.op ">" ts
    return none
  return some t.type

/-- An argument; says whether it is a lifetime, and its type if it is one. -/
def argument : Parser (Bool × Option TypeExpr) := do
  if ← sees fun ts => Token.lifetime ts && !Token.second (Token.op "+") ts then
    lifetime
    return (true, none)
  return (false, ← g.otherArgument)

/-- Arguments in angle brackets. -/
def angleArguments : Parser (List (Option TypeExpr)) := angled g.bound g.argument

/-! ## Parentheses -/

/-- The types of a tuple behind the first. -/
def tupleRest : Parser Unit := do
  op ","
  discard (separatedToEnd g.bound "," (g.type true))

/-- What stands in parentheses as a type. -/
inductive ParenContent where
  | tuple
  | single (t : TypeNode)
  /-- A bound that only a trait object can begin with. -/
  | relaxedBound

/-- What a parser reads, as a type with its text. -/
def asType (p : Parser TypeShape) : Parser TypeNode := do
  let (shape, tokens) ← collect p
  write tokens
  return ⟨shape, shape.toType (Token.textOf tokens), (tokens.head?.map Token.position).getD .start⟩

/-- What stands in parentheses as a type. -/
def parenContent : Parser ParenContent := do
  if ← atEnd then return .tuple
  if ← sees Token.lifetime then
    return .single (← asType (do
      g.objectBounds true false false
      return .other))
  if ← sees (Token.op "?") then
    discard (g.traitBound false)
    return .relaxedBound
  let first ← g.type true
  if ← sees (Token.op ",") then
    g.tupleRest
    return .tuple
  return .single first

/-- A trait object that goes on behind the parentheses of its first bound. Two pairs of them become one. -/
def objectBehind (content : TypeShape) (group : List Token) : Parser (Option TypeShape) := do
  match content, group with
  | .path false _ _, _ | .bound false, _ =>
    write group
    g.moreBounds
    return some .other
  | .bound true, [.group _ [.group d inner _] p] =>
    write [.group d inner p]
    g.moreBounds
    return some .other
  | _, _ => return none

/-- A type that begins with parentheses. -/
def parenType (plus : Bool) : Parser TypeShape := do
  let ((content, _), group) ← collect (inside .paren g.parenContent)
  match content with
  | .tuple =>
    write group
    return .other
  | .relaxedBound =>
    write group
    let isOne ← sees fun ts => !Token.op "+" ts
    g.moreBounds
    return if isOne then .bound true else .other
  | .single t =>
    if plus && (← sees (Token.op "+")) then
      if let some shape ← g.objectBehind t.shape group then return shape
    write group
    return .paren t.type

/-! ## Function types -/

/-- A first parameter of a function type that begins with `mut`; it is written as it is. -/
def mutableSelf : Parser Unit := verbatim do
  word "mut"
  if ← sees (Token.second (Token.op ":")) then
    word "self"
    op ":"
    discard (g.type true)
  else
    word "self"

/-- A parameter of a function type. -/
def functionTypeParameter (first : Bool) : Parser Unit := do
  let seesMutableSelf (ts : List Token) : Bool :=
    first && Token.word "mut" ts && Token.second (Token.word "self") ts
  if ← sees seesMutableSelf then
    return ← g.mutableSelf
  let before ← get
  let isSelf ← sees (Token.word "self")
  let named ← sees fun ts =>
    (Token.name ts || Token.word "_" ts || (first && isSelf)) &&
      Token.second (fun ts => Token.op ":" ts && !Token.op "::" ts) ts
  if named then
    discard anyName
    op ":"
  if (← sees seesMutableSelf) && !isSelf then
    word "mut"
    word "self"
    verbatimSince before
  else
    discard (g.type true)

/-- The points of a function type with any number of parameters, and their name. -/
def variadic : Parser Unit := do
  if !(← sees (Token.op "...")) then
    discard anyName
    op ":"
  op "..."
  discard (op? ",")

/-- The parameters of a function type. -/
def functionTypeParameters : Parser Unit :=
  rounds g.bound (fun first => do
    if ← atEnd then return .done ()
    discard g.outerAttributes
    if ← sees fun ts => Token.op "..." ts || ((Token.name ts || Token.word "_" ts) &&
        Token.second (Token.op ":") ts && Token.third (Token.op "...") ts) then
      variadic
      return .done ()
    g.functionTypeParameter first
    if ← atEnd then return .done ()
    op ","
    return .again false) true

/-- Whether a quoted text comes next that can name a convention. -/
def seesQuoted : List Token → Bool
  | .literal s _ :: _ => s.toList.head? = some '"' || s.toList.head? = some 'r'
  | _ => false

/-- The binding of a function to a foreign convention. -/
def abi : Parser Unit := do
  word "extern"
  if ← sees seesQuoted then
    discard literal

/-- The binding, if there is one. -/
def abi? : Parser Unit := do
  if ← sees (Token.word "extern") then
    abi

/-- A function type. -/
def functionType : Parser Unit := do
  discard (word? "unsafe")
  abi?
  word "fn"
  discard (inside .paren g.functionTypeParameters)
  g.returnType false

/-! ## Types -/

/-- A type that begins with a path. `lifetimes` stand in front of it where it is a bound. -/
def pathLedType (plus : Bool) (lifetimes : List Token) : Parser TypeShape := do
  let p ← g.qualifiedPath false
  let shape := TypeShape.path p.qualified p.names p.arguments
  if p.qualified then
    write p.tokens
    return shape
  if p.isModulePath && (← sees fun ts => Token.op "!" ts && !Token.op "!=" ts) then
    write p.modulePath.tokens
    op "!"
    discard anyGroup
    return .other
  if lifetimes.isEmpty && !(plus && (← sees (Token.op "+"))) then
    write p.tokens
    return shape
  write (lifetimes ++ p.tokens)
  if !(plus && (← sees (Token.op "+"))) then return .bound false
  rounds g.bound (fun () => do
    if !(← op? "+") then return .done .other
    if !(← sees (seesBound false)) then return .done .other
    discard (g.singleBound false false)
    return .again ()) ()

/-- A type between square brackets. -/
def sliceContent : Parser Unit := do
  discard (g.type true)
  if ← op? ";" then
    discard (g.expr true)

/-- What is built into the language and has no other notation; it is written as it is. -/
def builtin : Parser Unit := verbatim do
  word "builtin"
  op "#"
  discard name
  discard (inside .paren everything)

/-- Whether something built into the language comes next. -/
def seesBuiltin (ts : List Token) : Bool :=
  Token.word "builtin" ts && Token.second (Token.op "#") ts

/-- A trait object behind `dyn`. With a star it is written as it is. -/
def dynType (plus : Bool) : Parser Unit := do
  let before ← get
  word "dyn"
  let isStarred ← op? "*"
  g.objectBounds plus false false
  if isStarred then
    verbatimSince before

/-- A pointer or a reference. -/
def pointerType : Parser Unit := do
  if ← op? "*" then
    if !(← word? "const") then
      word "mut"
  else
    op "&"
    if ← sees Token.lifetime then
      lifetime
    discard (word? "mut")
  discard (g.type false)

/-- A type of which nothing but its text is kept. -/
def otherTypeRule (plus : Bool) : Parser Unit := do
  if ← sees (Token.word "dyn") then g.dynType plus
  else if ← sees (Token.opened .bracket) then discard (inside .bracket g.sliceContent)
  else if ← sees fun ts => Token.op "*" ts || Token.op "&" ts then g.pointerType
  else if ← sees fun ts => Token.op "!" ts && !Token.op "=" ts then op "!"
  else if ← word? "impl" then g.objectBounds plus true true
  else if ← sees (Token.word "_") then word "_"
  else
    check (← sees Token.lifetime)
    g.objectBounds plus false false

/-- What kind of type comes next. -/
def typeShape (plus : Bool) : Parser TypeShape := do
  let (isBound, lifetimes) ← collect g.binder?
  if isBound then
    check (← sees fun ts => Token.name ts || seesPathKeyword ts || Token.word "fn" ts ||
      Token.word "unsafe" ts || Token.word "extern" ts)
  if ← sees (Token.opened .paren) then g.parenType plus
  else if ← sees fun ts => Token.word "fn" ts || Token.word "unsafe" ts || Token.word "extern" ts then
    write lifetimes
    g.functionType
    return .other
  else if ← sees seesBuiltin then
    builtin
    return .other
  else if ← sees fun ts => Token.name ts || seesPathKeyword ts || Token.op "::" ts || Token.op "<" ts then
    g.pathLedType plus lifetimes
  else
    g.otherTypeRule plus
    return .other

/-- A type. -/
def typeRule (plus : Bool) : Parser TypeNode := asType (g.typeShape plus)

end Grammar

end Tablewright.Source
