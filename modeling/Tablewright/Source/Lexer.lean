import Tablewright.Source.LiteralToken
import Tablewright.Source.Token
import Tablewright.Text.Quoted

/-!
# Reading tokens

A source text becomes tokens, or is refused where a bracket, a quoted text or a comment is not closed
or a character begins no token. Documentation comments become the attributes that they stand for.
-/

namespace Tablewright.Source

namespace Lexer

/-- The characters of punctuation. -/
def punctuation : List Char := "~!@#$%^&*-=+|;:,<.>/?'".toList

/-- Whether a punctuation character comes next. The beginning of a comment is none. -/
def punctuationNext : List Char → Bool
  | '/' :: '/' :: _ | '/' :: '*' :: _ => false
  | c :: _ => punctuation.contains c
  | [] => false

/-- Names that can stand only without `r#`. -/
def neverRaw : List String := ["_", "super", "self", "Self", "crate"]

/-- A name, raw or not. -/
def name? : List Char → Taken
  | 'r' :: '#' :: s =>
    match Literal.word? s with
    | some (word, rest) =>
      if neverRaw.contains (String.ofList word) then none else some ('r' :: '#' :: word, rest)
    | none => none
  | s => Literal.word? s

/-- What begins a quoted text and can therefore begin no name. -/
def quotedBeginnings : List String :=
  ["r\"", "r#\"", "r##", "b\"", "b'", "br\"", "br#", "c\"", "cr\"", "cr#"]

/-- A name in a place where a quoted text could stand. -/
def identifier? (s : List Char) : Taken :=
  if quotedBeginnings.any fun lead => Text.startsWith lead.toList s then none else name? s

/-- A quote that begins a lifetime: a name follows, and no further quote. -/
def beginsLifetime (s : List Char) : Bool :=
  match name? s with
  | none => false
  | some (_, rest) =>
    match rest with
    | '\'' :: _ => false
    | '#' :: _ => Text.startsWith "r#".toList s
    | _ => true

/-- A literal that marks an error of an earlier reading. -/
def errorMark : List Char := "(/*ERROR*/)".toList

/-- A token that is no bracket, as written and read, and the rest. -/
def leaf? (position : Position) (s : List Char) : Option (Token × List Char × List Char) :=
  match Literal.token? s with
  | some (text, rest) => some (.literal (String.ofList text) position, text, rest)
  | none =>
    if punctuationNext s then
      match s with
      | '\'' :: rest =>
        if beginsLifetime rest then some (.punct '\'' true position, ['\''], rest) else none
      | c :: rest => some (.punct c (punctuationNext rest) position, [c], rest)
      | [] => none
    else
      match identifier? s with
      | some (text, rest) => some (.ident (String.ofList text) position, text, rest)
      | none =>
        (Text.after? errorMark s).map fun rest =>
          (.literal (String.ofList errorMark) position, errorMark, rest)

/-- The attribute that a documentation comment stands for. -/
def documentationTokens (position : Position) (d : Documentation) : List Token :=
  let content := Text.QuoteStyle.source.quote (String.ofList d.content)
  let mark := if d.inner then [Token.punct '!' false position] else []
  .punct '#' false position :: mark ++
    [.group .bracket [.ident "doc" position, .punct '=' false position, .literal content position]
      position]

/-- The bracket that a character opens. -/
def opens? : Char → Option Delimiter
  | '(' => some .paren
  | '[' => some .bracket
  | '\x7b' => some .brace
  | _ => none

/-- The bracket that a character closes. -/
def closes? : Char → Option Delimiter
  | ')' => some .paren
  | ']' => some .bracket
  | '\x7d' => some .brace
  | _ => none

/-- An open bracket, and the tokens in front of it, last first. -/
structure Frame where
  delimiter : Delimiter
  position : Position
  before : List Token

/-- All tokens from a position on. `frames` are the open brackets, the innermost first, and `tokens`
those read inside it, the last first; the first argument bounds the number of steps. -/
def scan? : Nat → Position → List Frame → List Token → List Char → Option (List Token)
  | 0, _, _, _, _ => none
  | fuel + 1, position, frames, tokens, s =>
    let (blanks, s) := skipBlanks fuel s
    let position := position.afterAll blanks
    match documentation? s with
    | some (d, comment, rest) =>
      scan? fuel (position.afterAll comment) frames
        ((documentationTokens position d).reverse ++ tokens) rest
    | none =>
      match s with
      | [] => if frames.isEmpty then some tokens.reverse else none
      | c :: rest =>
        let opening := if Text.startsWith errorMark s then none else opens? c
        match opening, closes? c with
        | some d, _ =>
          scan? fuel (position.after c) (⟨d, position, tokens⟩ :: frames) [] rest
        | none, some d =>
          match frames with
          | ⟨opened, start, before⟩ :: frames =>
            if opened = d then
              scan? fuel (position.after c) frames
                (.group d tokens.reverse start :: before) rest
            else none
          | [] => none
        | none, none =>
          match leaf? position s with
          | some (token, text, rest) =>
            scan? fuel (position.afterAll text) frames (token :: tokens) rest
          | none => none

end Lexer

/-- The mark that may stand in front of a text to say how it is encoded. -/
def byteOrderMark : Char := '\ufeff'

/-- The tokens of a source text. A byte order mark takes a column and is no token. -/
def tokens? (position : Position) (s : List Char) : Option (List Token) :=
  match s with
  | c :: rest =>
    if c == byteOrderMark then
      Lexer.scan? (s.length + 1) (position.after c) [] [] rest
    else Lexer.scan? (s.length + 1) position [] [] s
  | [] => some []

end Tablewright.Source
