import Tablewright.Source.ItemRules
import Tablewright.Source.Lexer

/-!
# Source files

The grammar as a whole, and the reading of files, expressions, blocks and types. Each parser of the
grammar refers to the one of a smaller depth; no text needs more depth than its number of tokens gives.
-/

namespace Tablewright.Source

namespace Grammar

/-- The grammar for texts that nest no deeper than `depth`. -/
def ofDepth (bound : Nat) : Nat → Grammar
  | 0 =>
    { bound
      type := fun _ => failure
      arguments := failure
      binder := failure
      pattern := failure
      expr := fun _ => failure
      early := failure
      unary := fun _ => failure
      operators := fun _ _ _ => failure
      statements := failure
      item := failure
      useTree := fun _ => failure }
  | depth + 1 =>
    { bound
      type := fun plus s => (ofDepth bound depth).typeRule plus s
      arguments := fun s => (ofDepth bound depth).angleArguments s
      binder := fun s => (ofDepth bound depth).binderRule s
      pattern := fun s => (ofDepth bound depth).patternRule s
      expr := fun allowStruct s => (ofDepth bound depth).exprRule allowStruct s
      early := fun s => (ofDepth bound depth).earlyRule s
      unary := fun allowStruct s => (ofDepth bound depth).unaryRule allowStruct s
      operators := fun allowStruct base left s =>
        (ofDepth bound depth).operatorsRule allowStruct base left s
      statements := fun s => (ofDepth bound depth).statementsRule s
      item := fun s => (ofDepth bound depth).itemRule s
      useTree := fun mayBeRooted s => (ofDepth bound depth).useTreeRule mayBeRooted s }

/-- The grammar for a text of so many tokens. -/
def ofSize (size : Nat) : Grammar := ofDepth (size + 2) (4 * size + 16)

end Grammar

namespace Token

mutual

/-- The number of tokens, those inside brackets included. -/
def size : Token → Nat
  | group _ inner _ => sizeAll inner + 1
  | _ => 1

/-- The number of tokens, those inside brackets included. -/
def sizeAll : List Token → Nat
  | [] => 0
  | t :: rest => t.size + sizeAll rest

end

end Token

/-- Reads a whole text with one of the grammar's parsers. -/
def readWith? {α : Type} (position : Position) (text : List Char) (p : Grammar → Parser α) :
    Option α := do
  let tokens ← tokens? position text
  (Parser.readAll? (p (Grammar.ofSize (Token.sizeAll tokens))) tokens).map (·.1)

/-- An expression by its text. -/
def Expr.ofText? (text : String) : Option Expr :=
  (readWith? .start text.toList (·.expr true)).map (·.expr)

/-- A block by its text. -/
def Expr.blockOfText? (text : String) : Option Expr :=
  readWith? .start text.toList fun g => g.plainBlock

/-- A type by its text. -/
def TypeExpr.ofText? (text : String) : Option TypeExpr :=
  (readWith? .start text.toList (·.type true)).map (·.type)

/-! ## Files -/

/-- A text without the mark at its beginning. -/
def withoutMark : List Char → List Char
  | c :: s => if c == byteOrderMark then s else c :: s
  | [] => []

/-- A text without the line that names its interpreter; an attribute is no such line. -/
def withoutInterpreter (s : List Char) : List Char :=
  match s with
  | '#' :: '!' :: rest =>
    if (skipBlanks (rest.length + 1) rest).2.head? = some '[' then s
    else s.dropWhile (· != '\n')
  | _ => s

/-- The declarations of a source file. -/
def Item.ofFile? (text : String) : Option (List Item) :=
  readWith? .start (withoutInterpreter (withoutMark text.toList)) fun g => do
    g.innerAttributes
    Parser.manyToEnd g.bound g.item

end Tablewright.Source
