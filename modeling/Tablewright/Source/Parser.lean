import Tablewright.Source.Token

/-!
# Parsers

A parser reads tokens from the front of a list and writes tokens as it goes: what it reads, spelled as
a printer would spell it. The pieces here write just what they read, with the characters of an operator
joined and operators set apart; `silently`, `write` and `verbatimSince` are for the places where the
printed form is another. A parser fails without a message: a source text that does not parse is refused
as a whole.
-/

namespace Tablewright.Source

/-- What is left to read, and what has been written so far, the last token first. -/
structure Reading where
  rest : List Token
  written : List Token
  deriving Inhabited

/-- Reads from the front of a list of tokens. -/
abbrev Parser := StateT Reading Option

/-! ## Looking ahead -/

namespace Token

/-- Whether the tokens begin with an operator. -/
def beginWith : List Char → List Token → Bool
  | [c], .punct d _ _ :: _ => c == d
  | c :: cs, .punct d joined _ :: rest => c == d && joined && beginWith cs rest
  | _, _ => false

/-- Whether the tokens begin with an operator. -/
def op (s : String) (ts : List Token) : Bool := beginWith s.toList ts

/-- Whether a given name or keyword comes next. -/
def word (s : String) : List Token → Bool
  | .ident t _ :: _ => s == t
  | _ => false

/-- Whether a bracket comes next. -/
def opened (d : Delimiter) : List Token → Bool
  | .group e _ _ :: _ => d == e
  | _ => false

/-- Whether any bracket comes next. -/
def openedAny : List Token → Bool
  | .group _ _ _ :: _ => true
  | _ => false

/-- Names that are keywords. -/
def keywords : List String :=
  ["_", "abstract", "as", "async", "await", "become", "box", "break", "const", "continue", "crate",
    "do", "dyn", "else", "enum", "extern", "false", "final", "fn", "for", "if", "impl", "in", "let",
    "loop", "macro", "match", "mod", "move", "mut", "override", "priv", "pub", "ref", "return",
    "Self", "self", "static", "struct", "super", "trait", "true", "try", "type", "typeof", "unsafe",
    "unsized", "use", "virtual", "where", "while", "yield"]

/-- Whether a name that is no keyword comes next. -/
def name : List Token → Bool
  | .ident t _ :: _ => !keywords.contains t
  | _ => false

/-- Whether a name or a keyword comes next. -/
def anyName : List Token → Bool
  | .ident _ _ :: _ => true
  | _ => false

/-- Whether a lifetime comes next. -/
def lifetime : List Token → Bool
  | .punct '\'' _ _ :: .ident _ _ :: _ => true
  | _ => false

/-- The literal that comes next: its tokens and those behind it. A number may have a sign, which is a
token of its own. -/
def literal? : List Token → Option (List Token × List Token)
  | .literal t p :: rest => some ([.literal t p], rest)
  | .ident t p :: rest => if t == "true" || t == "false" then some ([.ident t p], rest) else none
  | .punct '-' _ p :: .literal t q :: rest =>
    if t.toList.head?.any Char.isDigit then some ([.punct '-' false p, .literal t q], rest) else none
  | _ => none

/-- Whether a literal comes next. -/
def literalNext (ts : List Token) : Bool := (literal? ts).isSome

/-- The tokens behind the first one; a lifetime is one. -/
def skip : List Token → List Token
  | .punct '\'' _ _ :: .ident _ _ :: rest => rest
  | _ :: rest => rest
  | [] => []

/-- Whether something holds behind one token. -/
def second (p : List Token → Bool) (ts : List Token) : Bool := p (skip ts)

/-- Whether something holds behind two tokens. -/
def third (p : List Token → Bool) (ts : List Token) : Bool := p (skip (skip ts))

/-- The tokens of an operator: each is joined to the next one. -/
def asOperator : List Token → List Token
  | [.punct c _ p] => [.punct c false p]
  | .punct c _ p :: rest => .punct c true p :: asOperator rest
  | ts => ts

/-- An operator that stands nowhere in the source. -/
def operator (s : String) : List Token := asOperator (s.toList.map fun c => .punct c false .start)

end Token

namespace Parser

variable {α σ : Type}

/-! ## What is read and what is written -/

/-- The tokens that are left. -/
def upcoming : Parser (List Token) := Reading.rest <$> get

/-- Whether something holds of the tokens to come. -/
def sees (p : List Token → Bool) : Parser Bool := p <$> upcoming

/-- Fails unless the condition holds. -/
def check (b : Bool) : Parser Unit := if b then pure () else failure

/-- Whether nothing is left. -/
def atEnd : Parser Bool := sees List.isEmpty

/-- Where the next token begins. -/
def position : Parser Position := do
  return ((← upcoming).head?.map Token.position).getD .start

/-- Writes tokens. -/
def write (ts : List Token) : Parser Unit :=
  modify fun s => { s with written := ts.reverse ++ s.written }

/-- Reads with a parser and returns what it writes in place of writing it. -/
def collect (p : Parser α) : Parser (α × List Token) := fun s =>
  (p ⟨s.rest, []⟩).map fun (a, now) => ((a, now.written.reverse), ⟨now.rest, s.written⟩)

/-- Reads with a parser and writes nothing. -/
def silently (p : Parser α) : Parser α := Prod.fst <$> collect p

/-- Replaces what was written since an earlier state by what was read since then, as it is. -/
def verbatimSince (before : Reading) : Parser Unit :=
  modify fun now =>
    let read := before.rest.take (before.rest.length - now.rest.length)
    ⟨now.rest, read.reverse ++ before.written⟩

/-- Reads with a parser and writes what it read as it is. -/
def verbatim (p : Parser α) : Parser α := do
  let before ← get
  let a ← p
  verbatimSince before
  return a

/-- What a parser makes of all of the tokens, and what it writes. -/
def readAll? (p : Parser α) (ts : List Token) : Option (α × List Token) :=
  match p ⟨ts, []⟩ with
  | some (a, ⟨[], written⟩) => some (a, written.reverse)
  | _ => none

/-- Reads with a parser; where that fails, reads nothing. -/
def attempt (p : Parser α) : Parser (Option α) := fun s =>
  match p s with
  | some (a, now) => some (some a, now)
  | none => some (none, s)

/-- Whether a parser would succeed. -/
def wouldRead (p : Parser α) : Parser Bool := fun s => some ((p s).isSome, s)

/-! ## Single tokens -/

/-- Reads an operator. All but the last of its characters have to be joined to the next. -/
def op (s : String) : Parser Unit := fun r =>
  if Token.op s r.rest then
    some ((), ⟨r.rest.drop s.length,
      (Token.asOperator (r.rest.take s.length)).reverse ++ r.written⟩)
  else none

/-- Reads an operator if it is there, and says whether it is. -/
def op? (s : String) : Parser Bool := do
  if ← sees (Token.op s) then
    op s
    return true
  return false

/-- Reads any name or keyword. -/
def anyName : Parser (String × Position) := fun s =>
  match s.rest with
  | .ident t p :: rest => some ((t, p), ⟨rest, .ident t p :: s.written⟩)
  | _ => none

/-- Reads a given name or keyword. -/
def word (s : String) : Parser Unit := do
  check (← sees (Token.word s))
  discard anyName

/-- Reads a given name or keyword if it is there, and says whether it is. -/
def word? (s : String) : Parser Bool := do
  if ← sees (Token.word s) then
    word s
    return true
  return false

/-- Reads a name that is no keyword. -/
def name : Parser (String × Position) := do
  check (← sees Token.name)
  anyName

/-- Reads a lifetime. -/
def lifetime : Parser Unit := fun s =>
  match s.rest with
  | .punct '\'' _ p :: .ident t q :: rest =>
    some ((), ⟨rest, .ident t q :: .punct '\'' true p :: s.written⟩)
  | _ => none

/-- Reads a literal. -/
def literal : Parser (List Token) := fun s =>
  (Token.literal? s.rest).map fun (taken, rest) => (taken, ⟨rest, taken.reverse ++ s.written⟩)

/-- Reads any bracketed tokens as they are. -/
def anyGroup : Parser (Delimiter × List Token) := fun s =>
  match s.rest with
  | .group d inner p :: rest => some ((d, inner), ⟨rest, .group d inner p :: s.written⟩)
  | _ => none

/-- Reads everything between brackets. -/
def inside (d : Delimiter) (p : Parser α) : Parser (α × Position) := fun s =>
  match s.rest with
  | .group e inner start :: rest =>
    if d = e then
      (readAll? p inner).map fun (a, written) =>
        ((a, start), ⟨rest, .group d written start :: s.written⟩)
    else none
  | _ => none

/-- Reads everything that is left as it is. -/
def everything : Parser Unit := modify fun s => ⟨[], s.rest.reverse ++ s.written⟩

/-- Reads what a sign introduces. Where nothing follows the sign, it is not written either. -/
def introduced (sign : Parser Unit) (p : Parser α) : Parser α := do
  let ((), lead) ← collect sign
  let (a, written) ← collect p
  if !written.isEmpty then
    write lead
    write written
  return a

/-! ## Repetition -/

/-- What one round of a loop leads to. -/
inductive Round (σ α : Type) where
  | again (state : σ)
  | done (result : α)

/-- Runs rounds until one of them is the last. More than `bound` rounds fail. -/
def rounds (bound : Nat) (step : σ → Parser (Round σ α)) (state : σ) : Parser α :=
  match bound with
  | 0 => failure
  | bound + 1 => do
    match ← step state with
    | .again state => rounds bound step state
    | .done result => pure result

/-- Reads up to the end of the tokens. -/
def manyToEnd (bound : Nat) (p : Parser α) : Parser (List α) :=
  rounds bound (fun found => do
    if ← atEnd then return .done found.reverse
    return .again ((← p) :: found)) []

/-- Reads with separators between each two and perhaps behind the last, up to the end. -/
def separatedToEnd (bound : Nat) (separator : String) (p : Parser α) : Parser (List α) :=
  rounds bound (fun found => do
    if ← atEnd then return .done found.reverse
    let a ← p
    if ← atEnd then return .done (a :: found).reverse
    op separator
    return .again (a :: found)) []

/-- Reads with separators between each two and perhaps behind the last, until something stops it. -/
def separatedUntil (bound : Nat) (separator : String) (stop : List Token → Bool)
    (p : Parser Unit) : Parser Unit :=
  rounds bound (fun () => do
    if ← sees stop then return .done ()
    p
    if !(← op? separator) then return .done ()
    return .again ()) ()

end Parser

end Tablewright.Source
