import Tablewright.Source.OperatorRules

/-!
# Rules for statements

Statements of a block. Kept are the expressions that they are, the values that `let` gives to names,
and macros; declarations are read and left out.
-/

namespace Tablewright.Source

open Tablewright.Source.Parser

namespace Grammar

variable (g : Grammar)

/-- A statement that was read. -/
structure StatementNode where
  /-- What is kept of it. -/
  expr : Option Expr
  /-- Whether another statement may follow. -/
  isClosed : Bool

/-- What a macro at the beginning of a statement makes of it. -/
inductive MacroLead where
  | declaration
  | statement
  | none
  deriving DecidableEq

/-- What a macro behind a path makes of the statement. -/
def macroLeadBehind (ts : List Token) : MacroLead :=
  if !Token.op "!" ts then .none
  else if Token.second (fun ts => Token.name ts || Token.word "try" ts) ts then .declaration
  else if Token.second (Token.opened .brace) ts &&
      !Token.third (fun ts => (Token.op "." ts && !Token.op ".." ts) || Token.op "?" ts) ts then
    .statement
  else .none

/-- What a macro at the beginning of a statement makes of it. -/
def macroLead : Parser MacroLead := fun s =>
  match g.modulePath s with
  | some (_, behind) => some (macroLeadBehind behind.rest, s)
  | none => some (.none, s)

/-- Whether a declaration comes next. -/
def seesDeclaration (ts : List Token) : Bool :=
  let next := Token.word
  let second (s : String) := Token.second (Token.word s) ts
  let third (s : String) := Token.third (Token.word s) ts
  next "pub" ts || (next "crate" ts && !Token.second (Token.op "::") ts) || next "extern" ts ||
    next "use" ts || (next "static" ts && (second "mut" || Token.second Token.name ts)) ||
    (next "const" ts && !(Token.second (Token.opened .brace) ts || second "static" ||
      (second "async" && !(third "unsafe" || third "extern" || third "fn")) || second "move" ||
      Token.second (Token.op "|") ts)) ||
    (next "unsafe" ts && !Token.second (Token.opened .brace) ts) ||
    (next "async" ts && (second "unsafe" || second "extern" || second "fn")) || next "fn" ts ||
    next "mod" ts || next "type" ts || next "struct" ts || next "enum" ts ||
    (next "union" ts && Token.second Token.name ts) || (next "auto" ts && second "trait") ||
    next "trait" ts || (next "default" ts && (second "unsafe" || second "impl")) ||
    next "impl" ts || next "macro" ts

/-- A statement that gives a name a value. Behind a value that ends in braces no `else` can follow. -/
def letStatement : Parser StatementNode := do
  word "let"
  discard g.pattern
  if ← op? ":" then
    discard (g.type true)
  if !(← op? "=") then
    op ";"
    return ⟨none, true⟩
  let (value, tokens) ← collect (g.expr true)
  write tokens
  let endsInBraces := match tokens.getLast? with
    | some (.group .brace _ _) => true
    | _ => false
  if !endsInBraces && (← word? "else") then
    discard g.plainBlock
  op ";"
  return ⟨some value.expr, true⟩

/-- A statement that is an expression. -/
def exprStatement (attributes : Option Position × List Token) : Parser StatementNode := do
  let e ← attributed attributes (← collect g.early)
  let isEnded ← op? ";"
  let needsNone := match e.shape with
    | .blockLike | .braceMacro => true
    | .plain | .range | .comparison => false
  return ⟨some e.expr, isEnded || needsNone⟩

/-- A macro with braces that is a statement. -/
def macroStatement (attributes : Option Position × List Token) : Parser StatementNode := do
  write attributes.2
  let p ← position
  let path ← g.modulePath
  op "!"
  let (_, inner) ← anyGroup
  discard (op? ";")
  return ⟨some (.macroCall path (Token.textOf inner) (attributes.1.getD p)), true⟩

/-- A statement. -/
def statement : Parser StatementNode := do
  let before ← get
  let attributes ← collect g.attributeStart?
  let lead ← g.macroLead
  if lead = .statement then g.macroStatement attributes
  else if ← sees (Token.word "let") then
    write attributes.2
    g.letStatement
  else if lead = .declaration || (← sees seesDeclaration) then
    set before
    discard g.item
    return ⟨none, true⟩
  else g.exprStatement attributes

/-- All statements of a block. A semicolon where a statement could begin stands for nothing, and is
said to be at the beginning of the text. -/
def statementsRule : Parser (List Expr) :=
  rounds g.bound (fun found => do
    if ← op? ";" then return .again (.other .start :: found)
    if ← atEnd then return .done found.reverse
    let s ← g.statement
    let found := s.expr.toList ++ found
    if ← atEnd then return .done found.reverse
    check s.isClosed
    return .again found) []

end Grammar

end Tablewright.Source
