import Tablewright.Source.PatternRules

/-!
# Rules for operands

Literals, paths, brackets, closures, blocks and loops. Each rule returns the reduced expression and
where its first token is.
-/

namespace Tablewright.Source

open Tablewright.Source.Parser

namespace ExprNode

/-- An expression that begins where it says. -/
def own (e : Expr) (shape : ExprShape) : ExprNode := ⟨e, e.position, shape, true, false⟩

/-- An expression that is not looked into. -/
def other (p : Position) (shape : ExprShape) : ExprNode := own (.other p) shape

/-- The expression with something in front of it. -/
def startingAt (p : Position) (n : ExprNode) : ExprNode :=
  { n with expr := if n.ownsStart then n.expr.movedTo p else n.expr, start := p }

end ExprNode

namespace Grammar

variable (g : Grammar)

/-! ## Attributes -/

/-- Attributes, by where the first of them begins. -/
def attributeStart? : Parser (Option Position) := do
  if !(← sees (Token.op "#")) then return none
  let p ← position
  discard g.outerAttributes
  return some p

/-- Writes attributes in front of an expression that was read. A range gets parentheses; what is
written as it is leaves the attributes out. -/
def attributed (attributes : Option Position × List Token) (e : ExprNode × List Token) :
    Parser ExprNode := do
  match attributes with
  | (none, _) =>
    write e.2
    return e.1
  | (some p, written) =>
    if e.1.isVerbatim then
      write e.2
      return e.1
    write written
    write (if e.1.shape = .range then [.group .paren e.2 p] else e.2)
    return e.1.startingAt p

/-! ## Blocks -/

/-- The statements of a block in braces. -/
def plainBlock : Parser Expr := do
  let (statements, p) ← inside .brace g.statements
  return .block statements p

/-- The statements of a block that may begin with attributes of its own. -/
def attributedBlock : Parser Expr := do
  let (statements, p) ← inside .brace (do
    g.innerAttributes
    g.statements)
  return .block statements p

/-! ## Literals, paths and brackets -/

/-- The operand that a literal is. -/
def literalOperand : Parser ExprNode := do
  let p ← position
  let value : LiteralValue := match ← literal with
    | [.literal s _] => .ofToken s
    | [.ident s _] => .bool (s == "true")
    | _ => .other
  return .own (match value with | .other => .other p | v => .literal v p) .plain

/-- A field of a struct expression. -/
def fieldValue : Parser Unit := do
  discard g.outerAttributes
  let isNamed ← sees Token.name
  if isNamed then discard name else discard fieldNumber
  if !isNamed || (← sees (Token.op ":")) then
    op ":"
    discard (g.expr true)

/-- The fields of a struct expression. -/
def fieldValues : Parser Unit :=
  rounds g.bound (fun () => do
    if ← atEnd then return .done ()
    if ← op? ".." then
      if !(← atEnd) then
        discard (g.expr true)
      return .done ()
    g.fieldValue
    if ← atEnd then return .done ()
    op ","
    return .again ()) ()

/-- A path, a macro call or a struct. -/
def pathOperand (allowStruct : Bool) : Parser ExprNode := do
  let p ← position
  let path ← g.qualifiedPath true
  if path.isModulePath && (← sees fun ts => Token.op "!" ts && !Token.op "!=" ts) then
    write path.modulePath.tokens
    op "!"
    let (d, inner) ← anyGroup
    return .own (.macroCall path.names (Token.textOf inner) p)
      (if d = .brace then .braceMacro else .plain)
  write path.tokens
  if allowStruct && (← sees (Token.opened .brace)) then
    discard (inside .brace g.fieldValues)
    return .other p .plain
  return .own (.path path.names p) .plain

/-- An expression in parentheses, or a tuple. -/
def parenOperand : Parser ExprNode := do
  let (content, p) ← inside .paren (do
    if ← atEnd then return none
    let first ← g.expr true
    if ← atEnd then return some first
    op ","
    discard (separatedToEnd g.bound "," (g.expr true))
    return none)
  match content with
  | some e => return ⟨e.expr, p, .plain, false, false⟩
  | none => return .other p .plain

/-- An array. -/
def arrayOperand : Parser ExprNode := do
  let ((), p) ← inside .bracket (do
    if ← atEnd then return ()
    discard (g.expr true)
    if ← atEnd then return ()
    if ← op? ";" then
      discard (g.expr true)
    else
      op ","
      discard (separatedToEnd g.bound "," (g.expr true)))
  return .other p .plain

/-! ## Closures -/

/-- A parameter of a closure. Attributes of one that is written as it is are left out. -/
def closureParameter : Parser (Option String) := do
  let (_, attributes) ← collect g.outerAttributes
  let (pattern, tokens) ← collect g.pattern
  if !pattern.isVerbatim || (← sees (Token.op ":")) then
    write attributes
  write tokens
  if ← op? ":" then
    discard (g.type true)
  return pattern.name

/-- A closure. -/
def closureOperand (allowStruct : Bool) : Parser ExprNode := do
  let p ← position
  discard g.binder?
  discard (word? "const")
  discard (word? "static")
  discard (word? "async")
  discard (word? "move")
  op "|"
  let parameters ← rounds g.bound (fun found => do
    if ← sees (Token.op "|") then return .done found
    let found := found ++ [← g.closureParameter]
    if ← sees (Token.op "|") then return .done found
    op ","
    return .again found) ([] : List (Option String))
  op "|"
  let body ← if ← sees (Token.op "->") then (do
      g.returnType true
      g.plainBlock)
    else ExprNode.expr <$> g.expr allowStruct
  return .own (.closure (parameters.filterMap id) body p) .plain

/-! ## Branches and loops -/

/-- The branches of an `if`, from one `if` on. -/
def ifOperand : Parser ExprNode := do
  let branches ← rounds g.bound (fun found => do
    let p ← position
    word "if"
    let condition ← g.expr false
    let body ← g.plainBlock
    let found := (p, condition.expr :: body.statements) :: found
    if !(← word? "else") then return .done (found, none)
    if ← sees (Token.word "if") then return .again found
    return .done (found, some (← g.plainBlock))) ([] : List (Position × List Expr))
  let (found, last) := branches
  let whole := found.foldl
    (fun rest (p, statements) => some (Expr.block (statements ++ rest.toList) p)) last
  return .own (whole.getD (.block [] .start)) .blockLike

/-- A `for` loop, of which only the body is kept. -/
def forOperand : Parser ExprNode := do
  let p ← position
  word "for"
  discard g.patterns
  word "in"
  discard (g.expr false)
  return ⟨← g.attributedBlock, p, .blockLike, false, false⟩

/-- A `while` loop. -/
def whileOperand : Parser ExprNode := do
  let p ← position
  word "while"
  discard (g.expr false)
  discard g.attributedBlock
  return .other p .blockLike

/-- A loop without an end. -/
def loopOperand : Parser ExprNode := do
  let p ← position
  word "loop"
  discard g.attributedBlock
  return .other p .blockLike

/-- A block or loop behind a label. -/
def labeledOperand : Parser ExprNode := do
  let p ← position
  lifetime
  op ":"
  if ← sees (Token.opened .brace) then
    return ⟨← g.attributedBlock, p, .blockLike, false, false⟩
  let loop ← if ← sees (Token.word "while") then g.whileOperand
    else if ← sees (Token.word "for") then g.forOperand
    else g.loopOperand
  return loop.startingAt p

/-- An `unsafe` block. -/
def unsafeOperand : Parser ExprNode := do
  let p ← position
  word "unsafe"
  return ⟨← g.attributedBlock, p, .blockLike, false, false⟩

/-- A constant block. -/
def constOperand : Parser ExprNode := do
  let p ← position
  g.constBlock
  return .other p .blockLike

/-- A `try` block. -/
def tryOperand : Parser ExprNode := do
  let p ← position
  word "try"
  discard g.plainBlock
  return .other p .blockLike

/-- A block in braces. -/
def blockOperand : Parser ExprNode := do
  let p ← position
  return ⟨← g.attributedBlock, p, .blockLike, false, false⟩

/-- One arm of a `match`. -/
def matchArm : Parser Unit := do
  discard g.outerAttributes
  discard g.patterns
  if ← word? "if" then
    discard (g.expr true)
  op "=>"
  let e ← g.early
  if e.shape != .blockLike && !(← atEnd) then op "," else discard (op? ",")

/-- A `match`. -/
def matchOperand : Parser ExprNode := do
  let p ← position
  word "match"
  discard (g.expr false)
  discard (inside .brace (do
    g.innerAttributes
    manyToEnd g.bound g.matchArm))
  return .other p .blockLike

/-! ## Jumps and conditions -/

/-- Whether an expression can begin. -/
def seesExpr (ts : List Token) : Bool :=
  (Token.anyName ts && !Token.word "as" ts) || Token.openedAny ts || Token.literalNext ts ||
    (Token.op "!" ts && !Token.op "!=" ts) ||
    (Token.op "-" ts && !Token.op "-=" ts && !Token.op "->" ts) ||
    (Token.op "*" ts && !Token.op "*=" ts) || (Token.op "|" ts && !Token.op "|=" ts) ||
    (Token.op "&" ts && !Token.op "&=" ts) || Token.op ".." ts ||
    (Token.op "<" ts && !Token.op "<=" ts && !Token.op "<<=" ts) || Token.op "::" ts ||
    Token.lifetime ts || Token.op "#" ts

/-- A keyword that leaves its place, and perhaps a value. -/
def jumpOperand : Parser ExprNode := do
  let p ← position
  discard anyName
  if ← sees seesExpr then
    discard (g.expr true)
  return .other p .plain

/-- A `break`, perhaps with a label and a value. -/
def breakOperand (allowStruct : Bool) : Parser ExprNode := do
  let p ← position
  word "break"
  if ← sees Token.lifetime then
    lifetime
    check (!(← sees (Token.op ":")))
  if ← sees fun ts => seesExpr ts && (allowStruct || !Token.opened .brace ts) then
    discard (g.expr true)
  return .other p .plain

/-- A `continue`, perhaps with a label. -/
def continueOperand : Parser ExprNode := do
  let p ← position
  word "continue"
  if ← sees Token.lifetime then
    lifetime
  return .other p .plain

/-- A call that takes the place of the one it is in; it is written as it is. -/
def becomeOperand : Parser ExprNode := do
  let p ← position
  verbatim do
    word "become"
    discard (g.expr true)
  return { ExprNode.other p .plain with isVerbatim := true }

/-- An operand that is built into the language. -/
def builtinOperand : Parser ExprNode := do
  let p ← position
  builtin
  return { ExprNode.other p .plain with isVerbatim := true }

/-- A condition that binds names. -/
def letOperand (allowStruct : Bool) : Parser ExprNode := do
  let p ← position
  word "let"
  discard g.patterns
  op "="
  let value ← g.unary allowStruct
  discard (g.operators allowStruct .compare value)
  return .other p .plain

/-- A block that is carried out later. -/
def asyncOperand : Parser ExprNode := do
  let p ← position
  word "async"
  discard (word? "move")
  discard g.plainBlock
  return .other p .plain

end Grammar

end Tablewright.Source
