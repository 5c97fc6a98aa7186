import Tablewright.Number.Power
import Tablewright.Source.LiteralValue
import Tablewright.Source.TypeRules
import Tablewright.Text.Numeral

/-!
# Rules for patterns

All forms of patterns. Only the name that a pattern binds is kept.
-/

namespace Tablewright.Source

open Tablewright.Source.Parser

/-! ## Numbers of fields -/

/-- The numeral of a field's number: a whole number without a suffix, of 32 bits. -/
def fieldNumber? (s : String) : Option String :=
  match LiteralValue.whole? s.toList with
  | some (n, []) => if n < twoTo 32 then some (Text.numeral n) else none
  | _ => none

/-- Reads a field's number; it is written in decimal digits. -/
def Parser.fieldNumber : Parser String := do
  match ← silently literal with
  | [.literal s position] =>
    match fieldNumber? s with
    | some numeral =>
      write [.literal numeral position]
      return numeral
    | none => failure
  | _ => failure

namespace Grammar

variable (g : Grammar)

/-! ## Alternatives -/

/-- Whether a vertical bar comes next that is no other operator. -/
def seesBar (ts : List Token) : Bool :=
  Token.op "|" ts && !Token.op "||" ts && !Token.op "|=" ts

/-- A pattern or several with bars between them. -/
def patterns : Parser PatternNode := do
  let hasBar ← op? "|"
  let first ← g.pattern
  if !hasBar && !(← sees seesBar) then return first
  rounds g.bound (fun () => do
    if !(← sees seesBar) then return .done {}
    op "|"
    discard g.pattern
    return .again ()) ()

/-! ## Ranges -/

/-- A constant block. -/
def constBlock : Parser Unit := do
  word "const"
  discard (inside .brace (do
    g.innerAttributes
    g.statements))

/-- One end of a range, if it is there. -/
def rangeEnd? : Parser Bool := do
  if (← atEnd) || (← sees fun ts => Token.op "|" ts || Token.op "=" ts ||
      (Token.op ":" ts && !Token.op "::" ts) || Token.op "," ts || Token.op ";" ts ||
      Token.word "if" ts) then
    return false
  if ← sees Token.literalNext then discard literal
  else if ← sees (Token.word "const") then g.constBlock
  else
    check (← sees fun ts => Token.name ts || seesPathKeyword ts || Token.op "::" ts || Token.op "<" ts)
    discard (g.writtenPath true)
  return true

/-- The points of a range, and whether it holds its end. Three points are written like those with an
equals sign. -/
def rangePoints (mayBeThree : Bool) : Parser Bool := do
  if ← op? "..=" then return true
  if ← sees (Token.op "...") then
    check mayBeThree
    silently (op "...")
    write (Token.operator "..=")
    return true
  op ".."
  return false

/-- A range behind its beginning. -/
def rangeTail : Parser PatternNode := do
  let closed ← rangePoints true
  let hasEnd ← g.rangeEnd?
  check (!closed || hasEnd)
  return { isOpenRange := !hasEnd }

/-- A range without a beginning, or two points alone. -/
def rangeHead : Parser PatternNode := do
  let closed ← rangePoints false
  let hasEnd ← g.rangeEnd?
  check (!closed || hasEnd)
  return { isRest := !hasEnd, isOpenRange := hasEnd }

/-! ## Structs -/

/-- A field of a struct pattern; one that begins with `box` is written as it is. -/
def fieldPattern : Parser Unit := do
  let before ← get
  let isBoxed ← word? "box"
  let isReference ← word? "ref"
  let isMutable ← word? "mut"
  let isBare := !(isBoxed || isReference || isMutable)
  let isNamed ← sees Token.name
  if isNamed then
    discard name
  else
    check isBare
    discard fieldNumber
  if isBare && (!isNamed || (← sees (Token.op ":"))) then
    op ":"
    discard g.patterns
  if isBoxed then
    verbatimSince before

/-- The fields of a struct pattern. -/
def fieldPatterns : Parser Unit :=
  rounds g.bound (fun () => do
    if ← atEnd then return .done ()
    discard g.outerAttributes
    if ← op? ".." then return .done ()
    g.fieldPattern
    if ← atEnd then return .done ()
    op ","
    return .again ()) ()

/-! ## Patterns -/

/-- A pattern that begins with a path. -/
def pathPattern : Parser PatternNode := do
  let p ← g.qualifiedPath true
  if p.isModulePath && (← sees fun ts => Token.op "!" ts && !Token.op "!=" ts) then
    write p.modulePath.tokens
    op "!"
    discard anyGroup
    return {}
  write p.tokens
  if ← sees (Token.opened .brace) then
    discard (inside .brace g.fieldPatterns)
  else if ← sees (Token.opened .paren) then
    discard (inside .paren (separatedToEnd g.bound "," g.patterns))
  else if ← sees (Token.op "..") then
    return ← g.rangeTail
  return {}

/-- A name, and perhaps a pattern behind an at sign. -/
def namePattern : Parser PatternNode := do
  discard (word? "ref")
  discard (word? "mut")
  let (s, _) ← if ← sees (Token.word "self") then anyName else name
  if ← op? "@" then
    discard g.pattern
  return { name := some s }

/-- A number or another constant, or a range that begins with one. -/
def constantPattern : Parser PatternNode := do
  check (← g.rangeEnd?)
  if ← sees (Token.op "..") then g.rangeTail else return {}

/-- Whether a pattern that begins with a path comes next. -/
def seesPathPattern (ts : List Token) : Bool :=
  (Token.name ts && Token.second (fun ts => Token.op "::" ts || Token.op "!" ts ||
    Token.opened .brace ts || Token.opened .paren ts || Token.op ".." ts) ts) ||
    (Token.word "self" ts && Token.second (Token.op "::") ts) ||
    Token.op "::" ts || Token.op "<" ts || Token.word "Self" ts || Token.word "super" ts ||
    Token.word "crate" ts

/-- A pattern in brackets; ranges without an end need parentheses there. -/
def slicePattern : Parser PatternNode := do
  let (elements, _) ← inside .bracket (separatedToEnd g.bound "," g.patterns)
  check (elements.all fun e => !e.isOpenRange)
  return {}

/-- A pattern. -/
def patternRule : Parser PatternNode := do
  let ts ← upcoming
  if seesPathPattern ts then g.pathPattern
  else if Token.word "_" ts then
    word "_"
    return { name := some "_" }
  else if Token.word "box" ts then
    verbatim do
      word "box"
      discard g.pattern
    return { isVerbatim := true }
  else if Token.op "-" ts || Token.literalNext ts || Token.word "const" ts then
    g.constantPattern
  else if Token.word "ref" ts || Token.word "mut" ts || Token.word "self" ts || Token.name ts then
    g.namePattern
  else if ← op? "&" then
    discard (word? "mut")
    discard g.pattern
    return {}
  else if Token.opened .paren ts then
    discard (inside .paren (separatedToEnd g.bound "," g.patterns))
    return {}
  else if Token.opened .bracket ts then g.slicePattern
  else
    check (Token.op ".." ts && !Token.op "..." ts)
    g.rangeHead

end Grammar

end Tablewright.Source
