import Tablewright.Source.ExprRules

/-!
# Rules for operators

What stands in front of operands and behind them, operators by their strength, and expressions as a
whole.
-/

namespace Tablewright.Source

open Tablewright.Source.Parser

namespace Grammar

variable (g : Grammar)

/-! ## Operators -/

/-- The operators between two operands, longer ones first, and their strengths. -/
def binaryOperators : List (String × Precedence) :=
  [("+=", .assign), ("-=", .assign), ("*=", .assign), ("/=", .assign), ("%=", .assign),
    ("^=", .assign), ("&=", .assign), ("|=", .assign), ("<<=", .assign), (">>=", .assign),
    ("&&", .and), ("||", .or), ("<<", .shift), (">>", .shift), ("==", .compare), ("<=", .compare),
    ("!=", .compare), (">=", .compare), ("+", .sum), ("-", .sum), ("*", .product), ("/", .product),
    ("%", .product), ("^", .bitXor), ("&", .bitAnd), ("|", .bitOr), ("<", .compare),
    (">", .compare)]

/-- The operator that comes next. -/
def binaryOperator? (ts : List Token) : Option (String × Precedence) :=
  binaryOperators.find? fun (s, _) => Token.op s ts

/-- The strength of what comes next. -/
def nextPrecedence (ts : List Token) : Precedence :=
  match binaryOperator? ts with
  | some (_, p) => p
  | none =>
    if Token.op "=" ts && !Token.op "=>" ts then .assign
    else if Token.op ".." ts then .range
    else if Token.word "as" ts then .cast
    else .least

/-- An operand together with everything of greater strength that follows. -/
def rightOperand (allowStruct : Bool) (precedence : Precedence) : Parser ExprNode := do
  let first ← g.unary allowStruct
  rounds g.bound (fun right => do
    let next := nextPrecedence (← upcoming)
    if next.rank > precedence.rank || (next = precedence && precedence = .assign) then
      let before := (← upcoming).length
      let right ← g.operators allowStruct next right
      if (← upcoming).length = before then return .done right
      return .again right
    return .done right) first

/-- A range behind its beginning, or without one. -/
def rangeRight (allowStruct : Bool) : Parser Unit := do
  let closed ← rangePoints false
  let hasNoEnd ← sees fun ts => ts.isEmpty || Token.op "," ts || Token.op ";" ts ||
    (Token.op "." ts && !Token.op ".." ts) || Token.op "?" ts || Token.op "=>" ts ||
    (!allowStruct && Token.opened .brace ts) || Token.op "=" ts || Token.op "+" ts ||
    Token.op "/" ts || Token.op "%" ts || Token.op "^" ts || Token.op ">" ts || Token.op "<=" ts ||
    Token.op "!=" ts || Token.op "-=" ts || Token.op "*=" ts || Token.op "&=" ts ||
    Token.op "|=" ts || Token.op "<<=" ts || Token.word "as" ts
  if closed || !hasNoEnd then
    discard (g.rightOperand allowStruct .range)

/-- Whether a member of something comes next. -/
def seesMember (ts : List Token) : Bool := Token.op "." ts && !Token.op ".." ts

/-- Fails where a conversion is used as if it were in parentheses. -/
def checkCast : Parser Unit := do
  check (!(← sees fun ts => seesMember ts || Token.op "?" ts || Token.opened .bracket ts ||
    Token.opened .paren ts))

/-- Operators and operands that follow, from a given strength on. -/
def operatorsRule (allowStruct : Bool) (base : Precedence) (left : ExprNode) : Parser ExprNode :=
  rounds g.bound (fun left => do
    if left.shape = .range then return .done left
    let ts ← upcoming
    let whole (shape : ExprShape) : ExprNode :=
      { ExprNode.other left.start shape with isVerbatim := left.isVerbatim }
    match binaryOperator? ts with
    | some (s, p) =>
      if p.rank < base.rank then return .done left
      check (!(p = .compare && left.shape = .comparison))
      op s
      discard (g.rightOperand allowStruct p)
      return .again (whole (if p = .compare then .comparison else .plain))
    | none =>
      if base.rank ≤ Precedence.assign.rank && Token.op "=" ts && !Token.op "=>" ts then
        op "="
        discard (g.rightOperand allowStruct .assign)
        return .again (whole .plain)
      if base.rank ≤ Precedence.range.rank && Token.op ".." ts then
        g.rangeRight allowStruct
        return .again (.other left.start .range)
      if base.rank ≤ Precedence.cast.rank && Token.word "as" ts then
        word "as"
        discard (g.type false)
        checkCast
        return .again (whole .plain)
      return .done left) left

/-! ## Members, calls and indices -/

/-- Whether a number with a point or an exponent comes next. -/
def seesFloat : List Token → Option String
  | .literal s _ :: _ =>
    if s.toList.head?.any Char.isDigit && (LiteralValue.whole? s.toList).isNone then some s else none
  | _ => none

/-- The numerals of several fields that read as one number with points in it, and whether another field
follows the last point. -/
def fieldNumbers? (s : String) : Option (List String × Bool) := do
  let isOpen := s.toList.getLast? = some '.'
  let parts := Text.split ['.'] (if isOpen then s.toList.dropLast else s.toList)
  return (← parts.mapM fun part => fieldNumber? (String.ofList part), isOpen)

/-- A field, a method call or an `await` behind the point. -/
def member (left : ExprNode) : Parser ExprNode := do
  if ← word? "await" then return .other left.start .plain
  if ← sees Token.name then
    let (s, p) ← name
    let hasArguments ← op? "::"
    if hasArguments then
      discard g.arguments
    if hasArguments || (← sees (Token.opened .paren)) then
      let (arguments, _) ← inside .paren (separatedToEnd g.bound "," (g.expr true))
      return ⟨.methodCall left.expr s (arguments.map (·.expr)) p, left.start, .plain, false, false⟩
    return .own (.field left.expr s left.start) .plain
  return .own (.field left.expr (← fieldNumber) left.start) .plain

/-- Several fields by their numbers, with points between them. -/
def fields (left : ExprNode) (s : String) : Parser ExprNode := do
  silently (discard literal)
  match fieldNumbers? s with
  | none => failure
  | some (numerals, isOpen) =>
    write ((Token.operator ".").intercalate (numerals.map fun n => [.literal n .start]))
    let node := numerals.foldl
      (fun (e : ExprNode) n => .own (.field e.expr n e.start) .plain) left
    if !isOpen then return node
    write (Token.operator ".")
    g.member node

/-- Calls, fields, indices and question marks behind an operand. -/
def trailers (left : ExprNode) : Parser ExprNode :=
  rounds g.bound (fun left => do
    let isRange : Bool := left.shape = .range
    if ← sees (Token.opened .paren) then
      let (arguments, _) ← inside .paren (separatedToEnd g.bound "," (g.expr true))
      return .again (.own (.call left.expr (arguments.map (·.expr)) left.start) .plain)
    if (← sees seesMember) && !isRange then
      op "."
      match seesFloat (← upcoming) with
      | some s => return .again (← g.fields left s)
      | none => return .again (← g.member left)
    if ← sees (Token.opened .bracket) then
      discard (inside .bracket (g.expr true))
      return .again (.other left.start .plain)
    if (← sees (Token.op "?")) && !isRange then
      op "?"
      return .again (.other left.start .plain)
    return .done left) left

/-! ## Operands -/

/-- Whether a `for` that comes next begins a closure's parameters. -/
def seesForParameters (ts : List Token) : Bool :=
  Token.word "for" ts && seesGenerics (Token.skip ts)

/-- Whether a closure comes next. -/
def seesClosure (ts : List Token) : Bool :=
  Token.op "|" ts || Token.word "move" ts || seesForParameters ts ||
    (Token.word "const" ts && !Token.second (Token.opened .brace) ts) || Token.word "static" ts ||
    (Token.word "async" ts &&
      Token.second (fun ts => Token.op "|" ts || Token.word "move" ts) ts)

/-- Whether an asynchronous block comes next. -/
def seesAsync (ts : List Token) : Bool :=
  Token.word "async" ts && (Token.second (Token.opened .brace) ts ||
    (Token.second (Token.word "move") ts && Token.third (Token.opened .brace) ts))

/-- Whether a path comes next. -/
def seesPath (ts : List Token) : Bool :=
  Token.name ts || Token.op "::" ts || Token.op "<" ts || seesPathKeyword ts ||
    (Token.word "try" ts && Token.second (fun ts => Token.op "!" ts || Token.op "::" ts) ts)

/-- An operand without what follows it. -/
def atom (allowStruct : Bool) : Parser ExprNode := do
  let ts ← upcoming
  let p ← position
  if Token.literalNext ts then literalOperand
  else if seesAsync ts then g.asyncOperand
  else if Token.word "try" ts && Token.second (Token.opened .brace) ts then g.tryOperand
  else if seesClosure ts then g.closureOperand allowStruct
  else if seesBuiltin ts then builtinOperand
  else if seesPath ts then g.pathOperand allowStruct
  else if Token.opened .paren ts then g.parenOperand
  else if Token.word "break" ts then g.breakOperand allowStruct
  else if Token.word "continue" ts then continueOperand
  else if Token.word "return" ts || Token.word "yield" ts then g.jumpOperand
  else if Token.word "become" ts then g.becomeOperand
  else if Token.opened .bracket ts then g.arrayOperand
  else if Token.word "let" ts then g.letOperand allowStruct
  else if Token.word "if" ts then g.ifOperand
  else if Token.word "while" ts then g.whileOperand
  else if Token.word "for" ts then g.forOperand
  else if Token.word "loop" ts then g.loopOperand
  else if Token.word "match" ts then g.matchOperand
  else if Token.word "unsafe" ts then g.unsafeOperand
  else if Token.word "const" ts then g.constOperand
  else if Token.opened .brace ts then g.blockOperand
  else if Token.op ".." ts then
    g.rangeRight allowStruct
    return .other p .range
  else if Token.word "_" ts then
    word "_"
    return .other p .plain
  else g.labeledOperand

/-- A reference to an operand. -/
def referenceOperand (allowStruct : Bool) : Parser ExprNode := do
  let p ← position
  op "&"
  let isRaw ← sees fun ts => Token.word "raw" ts &&
    Token.second (fun ts => Token.word "mut" ts || Token.word "const" ts) ts
  if isRaw then
    word "raw"
  let isMutable ← word? "mut"
  if isRaw && !isMutable then
    word "const"
  let inner ← g.unary allowStruct
  return if isRaw then .other p .plain else .own (.reference inner.expr p) .plain

/-- An operand behind a sign. -/
def signedOperand (allowStruct : Bool) : Parser ExprNode := do
  let p ← position
  let isNegative ← op? "-"
  if !isNegative then
    if !(← op? "*") then
      op "!"
  let inner ← g.unary allowStruct
  return if isNegative then .own (.negation inner.expr p) .plain else .other p .plain

/-- An operand with its prefix operators and attributes. No attributes stand in front of a range that
has no beginning. -/
def unaryRule (allowStruct : Bool) : Parser ExprNode := do
  let before ← get
  let start ← g.attributeStart?
  let e ← if ← sees (Token.op "&") then g.referenceOperand allowStruct
    else if ← sees fun ts => Token.op "*" ts || Token.op "!" ts || Token.op "-" ts then
      g.signedOperand allowStruct
    else g.trailers (← g.atom allowStruct)
  match start with
  | none => return e
  | some p =>
    check (e.shape != .range)
    if e.isVerbatim then
      verbatimSince before
    return e.startingAt p

/-! ## Expressions -/

/-- An expression. -/
def exprRule (allowStruct : Bool) : Parser ExprNode := do
  g.operators allowStruct .least (← g.unary allowStruct)

/-- An operand that an expression that ends early can begin with. -/
def earlyOperand : Parser ExprNode := do
  let ts ← upcoming
  let isBlock (s : String) : Bool := Token.word s ts && Token.second (Token.opened .brace) ts
  if Token.word "if" ts then g.ifOperand
  else if Token.word "while" ts then g.whileOperand
  else if Token.word "for" ts && !seesForParameters ts then g.forOperand
  else if Token.word "loop" ts then g.loopOperand
  else if Token.word "match" ts then g.matchOperand
  else if isBlock "try" then g.tryOperand
  else if Token.word "unsafe" ts then g.unsafeOperand
  else if isBlock "const" then g.constOperand
  else if Token.opened .brace ts then g.blockOperand
  else if Token.lifetime ts then g.labeledOperand
  else g.unary true

/-- An expression that ends where its first block does. -/
def earlyRule : Parser ExprNode := do
  let attributes ← collect g.attributeStart?
  let operand ← collect (do
    let e ← g.earlyOperand
    if e.shape = .blockLike && (← sees fun ts => seesMember ts || Token.op "?" ts) then g.trailers e
    else return e)
  let e ← attributed attributes operand
  if e.shape = .blockLike then return e
  g.operators true .least e

end Grammar

end Tablewright.Source
