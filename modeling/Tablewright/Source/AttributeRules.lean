import Tablewright.Source.Grammar

/-!
# Rules for attributes

Attributes of what follows and of what encloses them. Their brackets hold a path, and behind it either
bracketed tokens, which are kept as they are, or an equals sign and an expression.
-/

namespace Tablewright.Source

open Tablewright.Source.Parser

/-- Whether the keyword of a path's segment comes next. -/
def seesPathKeyword (ts : List Token) : Bool :=
  Token.word "super" ts || Token.word "self" ts || Token.word "Self" ts || Token.word "crate" ts

namespace Grammar

variable (g : Grammar)

/-- A path of plain names. -/
def modulePath : Parser (List String) := do
  discard (op? "::")
  rounds g.bound (fun found => do
    check ((← sees Token.name) || (← sees seesPathKeyword))
    let (s, _) ← anyName
    if !(← op? "::") then return .done (found ++ [s])
    return .again (found ++ [s])) []

/-- An attribute: the name of its path, if it is one name alone, and its bracketed arguments. -/
structure AttributeNode where
  name : Option String
  arguments : Option (List Token)

/-- What stands between the brackets of an attribute. -/
def attributeContent : Parser AttributeNode := do
  let rooted ← sees (Token.op "::")
  let path ← if ← word? "unsafe" then pure ["unsafe"] else modulePath g
  let name := match path with
    | [s] => if rooted then none else some s
    | _ => none
  if ← sees Token.openedAny then
    let (_, inner) ← anyGroup
    return ⟨name, some inner⟩
  if ← op? "=" then
    if ← wouldRead (do discard literal; check (← atEnd)) then
      discard literal
    else
      check (!(← sees fun ts => Token.op "#" ts && Token.second (Token.opened .bracket) ts))
      discard (g.expr true)
  return ⟨name, none⟩

/-- An attribute of what follows. -/
def outerAttribute : Parser AttributeNode := do
  op "#"
  return (← inside .bracket g.attributeContent).1

/-- All attributes of what follows. -/
def outerAttributes : Parser (List AttributeNode) :=
  rounds g.bound (fun found => do
    if !(← sees (Token.op "#")) then return .done found
    return .again (found ++ [← g.outerAttribute])) []

/-- All attributes of what encloses them. -/
def innerAttributes : Parser Unit :=
  rounds g.bound (fun () => do
    if !(← sees fun ts => Token.op "#" ts && Token.second (Token.op "!") ts) then return .done ()
    op "#"
    op "!"
    discard (inside .bracket g.attributeContent)
    return .again ()) ()

end Grammar

end Tablewright.Source
