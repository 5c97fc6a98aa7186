import Tablewright.Source.SignatureRules

/-!
# Rules for declarations

Structs, enums, impl blocks, constants and modules are kept; every other declaration is read and
becomes `Item.other`. A declaration in an unusual form is written as it is, and so is a member of one.
-/

namespace Tablewright.Source

open Tablewright.Source.Parser

namespace Grammar

variable (g : Grammar)

/-! ## Fields and variants -/

/-- The type of a field without a name: fields in place, written as they are, or a type. -/
def anonymousType (fields : Parser (List Field)) : Parser TypeExpr := do
  if ← sees fun ts => Token.word "struct" ts ||
      (Token.word "union" ts && Token.second (Token.opened .brace) ts) then
    return (← asType (verbatim (do
      discard anyName
      discard fields
      return .other))).type
  return (← g.type true).type

/-- A field with a name; `nested` reads fields that stand in place of its type. -/
def namedField (nested : Parser (List Field)) : Parser Field := do
  discard g.outerAttributes
  let visibility ← g.visibility
  let unnamed ← sees (Token.word "_")
  let (ident, position) ← if unnamed then anyName else name
  op ":"
  let type ← if unnamed then g.anonymousType nested else TypeNode.type <$> g.type true
  return ⟨ident, position, visibility = .reachable, type⟩

/-- Fields with names, in braces; the first argument bounds how deep fields stand in fields. -/
def namedFields : Nat → Parser (List Field)
  | 0 => failure
  | depth + 1 => do
    let (fields, _) ← inside .brace
      (separatedToEnd g.bound "," (g.namedField (namedFields depth)))
    return fields

/-- Fields without names, in parentheses. -/
def positionalFields : Parser Unit := do
  discard (inside .paren (separatedToEnd g.bound "," (do
    discard g.outerAttributes
    discard g.visibility
    g.type true)))

/-- A variant of an enum. Its visibility is not written. -/
def variant : Parser Variant := do
  discard g.outerAttributes
  discard (silently g.visibility)
  let (s, _) ← name
  let isNamed ← sees (Token.opened .brace)
  let isPositional ← sees (Token.opened .paren)
  if isNamed then
    discard (g.namedFields g.bound)
  if isPositional then
    g.positionalFields
  if ← op? "=" then
    discard (g.expr true)
  return ⟨s, !isNamed && !isPositional⟩

/-! ## Structs and enums -/

/-- A struct behind its visibility. -/
def structItem (visibility : Visibility) : Parser Item := do
  word "struct"
  let (s, position) ← name
  let parameters ← g.generics
  let item (fields : Option (List Field)) : Item :=
    .struct ⟨s, position, visibility = .reachable, parameters.count != 0, fields⟩
  let isConditional ← g.conditions
  if !isConditional && (← sees (Token.opened .paren)) then
    g.positionalFields
    discard g.conditions
    op ";"
    return item none
  if ← sees (Token.opened .brace) then
    return item (some (← g.namedFields g.bound))
  op ";"
  return item none

/-- The names in an attribute's arguments, if those are names with commas between them. -/
def attributeNames (arguments : List Token) : List String :=
  match readAll? (separatedToEnd (arguments.length + 1) "," name) arguments with
  | some (names, _) => names.map (·.1)
  | none => []

/-- An enum behind its visibility. -/
def enumItem (attributes : List AttributeNode) : Parser Item := do
  word "enum"
  let (s, _) ← name
  discard g.generics
  discard g.conditions
  let (variants, _) ← inside .brace (separatedToEnd g.bound "," g.variant)
  let representations := attributes.flatMap fun a =>
    if a.name = some "repr" then attributeNames (a.arguments.getD []) else []
  return .enum ⟨s, representations, variants⟩

/-! ## Members of impl blocks and traits -/

/-- A member of an impl block; functions with a body are kept. -/
def implMember : Parser (Option Method) := do
  let before ← get
  discard g.outerAttributes
  let visibility ← g.visibility
  let isDefault ← sees fun ts => Token.word "default" ts && !Token.second (Token.op "!") ts
  if isDefault then
    word "default"
  if ← seesSignature false then
    let f ← g.function false
    if f.body.isNone then
      verbatimSince before
    return f.body.map (⟨f.parameterTypes.map TypeExpr.text, ·⟩)
  if ← sees (Token.word "const") then
    let c ← g.constDefinition
    if c.isGeneric || c.value.isNone then
      verbatimSince before
  else if ← sees (Token.word "type") then
    let t ← g.typeDefinition .behindValue
    if t.isBounded || !t.isGiven then
      verbatimSince before
  else
    check (visibility = .inherited && !isDefault && (← sees seesMacroPath))
    g.macroDeclaration false
  return none

/-- A member of a trait. -/
def traitMember : Parser Unit := do
  let before ← get
  discard g.outerAttributes
  let visibility ← g.visibility
  let isDefault ← word? "default"
  if ← seesSignature false then
    discard (g.function false)
  else if ← sees (Token.word "const") then
    if (← g.constDefinition).isGeneric then
      verbatimSince before
  else if ← sees (Token.word "type") then
    discard (g.typeDefinition .behindValue)
  else
    check (visibility = .inherited && !isDefault && (← sees seesMacroPath))
    g.macroDeclaration false
  if visibility != .inherited || isDefault then
    verbatimSince before

/-! ## Impl blocks and traits -/

/-- A trait or a name for several, behind its visibility. -/
def traitItem : Parser Item := do
  let isUnsafe ← word? "unsafe"
  let isAuto ← word? "auto"
  word "trait"
  discard name
  discard g.generics
  if !isUnsafe && !isAuto && (← op? "=") then
    g.boundsUntil false fun ts => Token.word "where" ts || Token.op ";" ts
    discard g.conditions
    op ";"
    return .other
  if ← sees (Token.op ":") then
    introduced (op ":") (g.boundsUntil true fun ts =>
      Token.word "where" ts || Token.opened .brace ts)
  discard g.conditions
  discard (inside .brace (do
    g.innerAttributes
    manyToEnd g.bound g.traitMember))
  return .other

/-- The trait that a type names. -/
def traitOf? (type : TypeExpr) : Option TraitRef :=
  match type with
  | .path _ false names arguments => some ⟨names.getLast?.getD "", (arguments.getD []).filterMap id⟩
  | _ => none

/-- An impl block behind its visibility, unless that, a `const`, or a trait that is no path makes it
unusual. -/
def implBlock? (visibility : Visibility) : Parser (Option ImplItem) := do
  discard (word? "default")
  discard (word? "unsafe")
  word "impl"
  if ← sees seesGenerics then
    discard g.generics
  let isConst ← sees fun ts => Token.word "const" ts ||
    (Token.op "?" ts && Token.second (Token.word "const") ts)
  if isConst then
    discard (op? "?")
    word "const"
  let isNegative ← sees fun ts => Token.op "!" ts && !Token.second (Token.opened .brace) ts
  if isNegative then
    op "!"
  let first ← g.type true
  let isFor ← word? "for"
  check (isFor || !isNegative)
  let type ← if isFor then g.type true else pure first
  discard g.conditions
  let (members, _) ← inside .brace (do
    g.innerAttributes
    manyToEnd g.bound g.implMember)
  let ofTrait := if isFor then traitOf? first.type else none
  if visibility != .inherited || isConst || (isFor && ofTrait.isNone) then return none
  return some ⟨ofTrait, type.type, type.start, members.filterMap id⟩

/-! ## Modules and foreign declarations -/

/-- A module behind its visibility. -/
def moduleItem : Parser Item := do
  discard (word? "unsafe")
  word "mod"
  let (s, _) ← if ← sees (Token.word "try") then anyName else name
  if ← op? ";" then return .other
  let (items, _) ← inside .brace (do
    g.innerAttributes
    manyToEnd g.bound g.item)
  return .module s items

/-- A static variable, behind its visibility. Says whether it has a type and a value. -/
def staticItem : Parser Bool := do
  word "static"
  discard (word? "mut")
  discard name
  let isTyped ← sees fun ts => !Token.op "=" ts
  if isTyped then
    op ":"
    discard (g.type true)
  let isGiven ← op? "="
  if isGiven then
    discard (g.expr true)
  op ";"
  return isTyped && isGiven

/-- A static variable among foreign declarations. Says whether it is in its usual form. -/
def foreignStatic : Parser Bool := do
  let isMarked ← if ← word? "unsafe" then pure true else word? "safe"
  word "static"
  discard (word? "mut")
  discard name
  op ":"
  discard (g.type true)
  let isGiven ← op? "="
  if isGiven then
    discard (g.expr true)
  op ";"
  return !isMarked && !isGiven

/-- A foreign declaration. -/
def foreignMember : Parser Unit := do
  let before ← get
  discard g.outerAttributes
  let visibility ← g.visibility
  if ← seesSignature true then
    let f ← g.function true
    if f.isSafe || f.body.isSome then
      verbatimSince before
  else if ← sees fun ts => Token.word "static" ts ||
      ((Token.word "unsafe" ts || Token.word "safe" ts) && Token.second (Token.word "static") ts) then
    if !(← g.foreignStatic) then
      verbatimSince before
  else if ← sees (Token.word "type") then
    let t ← g.typeDefinition .both
    if t.isBounded || t.isGiven then
      verbatimSince before
  else
    check (visibility = .inherited && (← sees seesMacroPath))
    g.macroDeclaration false

/-- Foreign declarations. -/
def foreignItem : Parser Unit := do
  discard (word? "unsafe")
  abi
  discard (inside .brace (do
    g.innerAttributes
    manyToEnd g.bound g.foreignMember))

/-! ## Uses -/

/-- Another name for something. -/
def otherName : Parser Unit := do
  if ← word? "as" then
    if ← sees (Token.word "_") then discard anyName else discard name

/-- The use of another crate. -/
def externCrate : Parser Unit := do
  word "extern"
  word "crate"
  if ← sees (Token.word "self") then discard anyName else discard name
  otherName
  op ";"

/-- What is used; whether its path may begin at the root. Says whether one inside braces does. -/
def useTreeRule (mayBeRooted : Bool) : Parser Bool := do
  if ← sees fun ts => Token.name ts || Token.word "self" ts || Token.word "super" ts ||
      Token.word "crate" ts || Token.word "try" ts then
    discard anyName
    if ← op? "::" then return ← g.useTree false
    otherName
    return false
  if ← op? "*" then return false
  let (rooted, _) ← inside .brace (separatedToEnd g.bound "," (do
    let isRooted ← if mayBeRooted then op? "::" else pure false
    return (← g.useTree (mayBeRooted && !isRooted)) || isRooted))
  return rooted.any id

/-- A use of names. Says whether it is in its usual form. -/
def useItem : Parser Bool := do
  word "use"
  let isRooted ← op? "::"
  let isInnerRooted ← g.useTree (!isRooted)
  op ";"
  return !isInnerRooted

/-! ## Declarations -/

/-- The definition of a macro by its rules. -/
def macroDefinition : Parser Unit := do
  word "macro"
  discard name
  if ← sees (Token.opened .paren) then
    discard anyGroup
  discard (inside .brace everything)

/-- A union behind its visibility. -/
def unionItem : Parser Unit := do
  word "union"
  discard name
  discard g.generics
  discard g.conditions
  discard (g.namedFields g.bound)

/-- A function behind its visibility. Says whether it has a body. -/
def functionItem : Parser Bool := do
  return (← g.function false).body.isSome

/-- A constant behind its visibility, if it has a value that depends on nothing. -/
def constItem? : Parser (Option ConstItem) := do
  let c ← g.constDefinition
  return if c.isGeneric then none else c.value.map (⟨c.name, ·⟩)

/-- What a declaration became. -/
inductive ItemNode where
  | kept (item : Item)
  /-- One of which nothing is kept; whether it is in its usual form. -/
  | left (isUsual : Bool)

/-- A declaration that begins with `unsafe`. -/
def unsafeItem (visibility : Visibility) : Parser ItemNode := do
  let next := fun s => Token.second (Token.word s)
  if ← sees fun ts => next "trait" ts ||
      (next "auto" ts && Token.third (Token.word "trait") ts) then
    return .kept (← g.traitItem)
  if ← sees (next "impl") then
    return ((← g.implBlock? visibility).map fun i => .kept (.impl i)).getD (.left false)
  if ← sees (next "extern") then
    check (visibility = .inherited)
    g.foreignItem
    return .left true
  return .kept (← g.moduleItem)

/-- A declaration that begins with `extern`. -/
def externItem (visibility : Visibility) : Parser Unit := do
  if ← sees (Token.second (Token.word "crate")) then externCrate
  else
    check (visibility = .inherited)
    g.foreignItem

/-- A declaration behind its attributes and its visibility. -/
def itemNode (attributes : List AttributeNode) (visibility : Visibility) : Parser ItemNode := do
  let ts ← upcoming
  let next := fun s => Token.word s ts
  let second := fun s => Token.second (Token.word s) ts
  if ← seesSignature false then return .left (← g.functionItem)
  else if next "extern" then
    g.externItem visibility
    return .left true
  else if next "use" then return .left (← g.useItem)
  else if next "static" then return .left (← g.staticItem)
  else if next "const" then
    return ((← g.constItem?).map fun c => .kept (.const c)).getD (.left false)
  else if next "unsafe" then g.unsafeItem visibility
  else if next "mod" then return .kept (← g.moduleItem)
  else if next "type" then
    let t ← g.typeDefinition .beforeValue
    return .left (!t.isBounded && t.isGiven)
  else if next "struct" then return .kept (← g.structItem visibility)
  else if next "enum" then return .kept (← g.enumItem attributes)
  else if next "union" && Token.second Token.name ts then
    g.unionItem
    return .left true
  else if next "trait" || (next "auto" && second "trait") then return .kept (← g.traitItem)
  else if next "impl" || (next "default" && !Token.second (Token.op "!") ts) then
    return ((← g.implBlock? visibility).map fun i => .kept (.impl i)).getD (.left false)
  else if next "macro" then
    macroDefinition
    return .left false
  else
    check (visibility = .inherited && seesMacroPath ts)
    g.macroDeclaration true
    return .left true

/-- A declaration. -/
def itemRule : Parser Item := do
  let before ← get
  let attributes ← g.outerAttributes
  let visibility ← g.visibility
  match ← g.itemNode attributes visibility with
  | .kept item => return item
  | .left true => return .other
  | .left false =>
    verbatimSince before
    return .other

end Grammar

end Tablewright.Source
