import Tablewright.Source.Comment
import Tablewright.Text.Identifier
import Tablewright.Text.Numeral

/-!
# Literal tokens

Where a literal ends: texts, byte texts and zero-ended texts, plain or raw, characters and bytes,
numbers. Any of them may carry a suffix. Each function returns the literal as written and the rest;
it fails on a text that no literal begins.
-/

namespace Tablewright.Source

/-- What is taken from the beginning of a text, and the rest. -/
abbrev Taken := Option (List Char × List Char)

/-- What kinds of characters a quoted text holds. -/
inductive QuotedKind where
  | text
  | bytes
  | zeroEnded
  deriving DecidableEq

namespace Literal

/-- More taken in front. -/
def behind (lead : List Char) (t : Taken) : Taken :=
  t.map fun (taken, rest) => (lead ++ taken, rest)

/-- A name, without `r#`. -/
def word? : List Char → Taken
  | c :: s =>
    if Text.isIdentifierStart c then
      some (c :: s.takeWhile Text.isIdentifierContinue, s.dropWhile Text.isIdentifierContinue)
    else none
  | [] => none

/-- A suffix, if there is one. -/
def suffix (s : List Char) : List Char × List Char :=
  (word? s).getD ([], s)

/-- A literal together with its suffix. -/
def withSuffix (t : Taken) : Taken :=
  t.map fun (taken, rest) => let (more, rest) := suffix rest; (taken ++ more, rest)

/-! ## Escapes -/

/-- The digits of `\u\x7b…\x7d` and the closing brace, six digits at most; `value` and `count` are of those
already read. -/
def unicodeDigits? (value count : Nat) : List Char → Option (Nat × List Char × List Char)
  | [] => none
  | c :: s =>
    let more (value count : Nat) :=
      (unicodeDigits? value count s).map fun (v, taken, rest) => (v, c :: taken, rest)
    match Text.hexValue? c with
    | some d => if count = 6 then none else more (value * 16 + d) (count + 1)
    | none =>
      if c == '_' && 0 < count then more value count
      else if c == '\x7d' && 0 < count then some (value, [c], s)
      else none

/-- Whether a number is that of a character. -/
def isScalar (n : Nat) : Bool :=
  n < 0xd800 || (0xdfff < n && n < 0x110000)

/-- What follows a backslash in a quoted text, line ends apart. -/
def escape? (kind : QuotedKind) : List Char → Taken
  | 'x' :: a :: b :: s => do
    let high ← Text.hexValue? a
    let low ← Text.hexValue? b
    let fits : Bool := match kind with
      | .text => high < 8
      | .bytes => true
      | .zeroEnded => 0 < high + low
    if fits then some (['x', a, b], s) else none
  | 'u' :: '\x7b' :: s => do
    let (value, taken, rest) ← unicodeDigits? 0 0 s
    if kind != .bytes && isScalar value && (kind != .zeroEnded || value != 0) then
      some ('u' :: '\x7b' :: taken, rest)
    else none
  | '0' :: s => if kind == .zeroEnded then none else some (['0'], s)
  | c :: s => if c ∈ ['n', 'r', 't', '\\', '\'', '"'] then some ([c], s) else none
  | [] => none

/-- The blanks behind a backslash at the end of a line. A carriage return needs a line feed, and
something has to follow. -/
def lineBlanks? : List Char → Taken
  | [] => none
  | '\r' :: '\n' :: s => behind ['\r', '\n'] (lineBlanks? s)
  | '\r' :: _ => none
  | c :: s => if c ∈ [' ', '\t', '\n'] then behind [c] (lineBlanks? s) else some ([], c :: s)

/-! ## Quoted texts -/

/-- Whether a character may stand in a quoted text as it is. -/
def isPlain (kind : QuotedKind) (c : Char) : Bool :=
  match kind with
  | .text => true
  | .bytes => c.toNat < 128
  | .zeroEnded => c != '\x00'

/-- A quoted text behind its opening quote; the first argument bounds its length. -/
def quoted? (kind : QuotedKind) : Nat → List Char → Taken
  | 0, _ => none
  | fuel + 1, s =>
    match s with
    | [] => none
    | '"' :: s => some (['"'], s)
    | '\r' :: '\n' :: s => behind ['\r', '\n'] (quoted? kind fuel s)
    | '\r' :: _ => none
    | '\\' :: s =>
      let line := match s with
        | '\n' :: _ | '\r' :: _ => lineBlanks? s
        | _ => none
      match line <|> escape? kind s with
      | some (taken, rest) => behind ('\\' :: taken) (quoted? kind fuel rest)
      | none => none
    | c :: s => if isPlain kind c then behind [c] (quoted? kind fuel s) else none

/-- The number signs in front of a raw text and its opening quote. -/
def rawOpening? (s : List Char) : Option (List Char × List Char) :=
  let signs := s.takeWhile (· == '#')
  match s.dropWhile (· == '#') with
  | '"' :: rest => if signs.length ≤ 255 then some (signs, rest) else none
  | _ => none

/-- A raw text up to a quote that the number signs follow. -/
def rawBody? (kind : QuotedKind) (signs : List Char) : List Char → Taken
  | [] => none
  | '"' :: s =>
    match Text.after? signs s with
    | some rest => some ('"' :: signs, rest)
    | none => behind ['"'] (rawBody? kind signs s)
  | '\r' :: '\n' :: s => behind ['\r', '\n'] (rawBody? kind signs s)
  | '\r' :: _ => none
  | c :: s => if isPlain kind c then behind [c] (rawBody? kind signs s) else none

/-- A raw text from its first number sign or quote on. -/
def raw? (kind : QuotedKind) (s : List Char) : Taken := do
  let (signs, rest) ← rawOpening? s
  behind (signs ++ ['"']) (rawBody? kind signs rest)

/-- A quoted or raw text behind the letter that marks its kind. -/
def textLiteral? (kind : QuotedKind) : List Char → Taken
  | '"' :: s => withSuffix (behind ['"'] (quoted? kind (s.length + 1) s))
  | 'r' :: s => withSuffix (behind ['r'] (raw? kind s))
  | _ => none

/-! ## Characters -/

/-- One character or escape and a closing quote. -/
def character? (kind : QuotedKind) (s : List Char) : Taken :=
  let body : Taken := match s with
    | '\\' :: s => behind ['\\'] (escape? kind s)
    | c :: s => if isPlain kind c then some ([c], s) else none
    | [] => none
  match body with
  | some (taken, '\'' :: rest) => withSuffix (some (taken ++ ['\''], rest))
  | _ => none

/-! ## Numbers -/

/-- The exponent behind its letter: signs, digits and underscores, with a digit at least. -/
def exponent? (hasSign hasDigit : Bool) : List Char → Taken
  | c :: s =>
    let stop : Taken := if hasDigit then some ([], c :: s) else none
    if c == '+' || c == '-' then
      if hasDigit then stop else if hasSign then none else behind [c] (exponent? true false s)
    else if c.isDigit then behind [c] (exponent? hasSign true s)
    else if c == '_' then behind [c] (exponent? hasSign hasDigit s)
    else stop
  | [] => if hasDigit then some ([], []) else none

/-- The digits of a number with a point or an exponent. Digits behind a point and an exponent letter
without an exponent end at the point's digits. -/
def fraction? (hasPoint : Bool) : List Char → Taken
  | [] => if hasPoint then some ([], []) else none
  | c :: s =>
    let stop : Taken := if hasPoint then some ([], c :: s) else none
    if c.isDigit || c == '_' then behind [c] (fraction? hasPoint s)
    else if c == '.' then
      if hasPoint then stop
      else
        match s with
        | d :: _ => if d == '.' || Text.isIdentifierStart d then none
            else behind [c] (fraction? true s)
        | [] => some ([c], [])
    else if c == 'e' || c == 'E' then
      match exponent? false false s with
      | some (taken, rest) => some (c :: taken, rest)
      | none => stop
    else stop

/-- The digits of a whole number of a base behind its mark; a letter that is no digit ends them. -/
def wholeDigits? (base : Nat) (hasDigit : Bool) : List Char → Taken
  | [] => if hasDigit then some ([], []) else none
  | c :: s =>
    let stop : Taken := if hasDigit then some ([], c :: s) else none
    match Text.hexValue? c with
    | some d =>
      if d < base then behind [c] (wholeDigits? base true s)
      else if c.isDigit then none else stop
    | none =>
      if c == '_' then
        if !hasDigit && base == 10 then none else behind [c] (wholeDigits? base hasDigit s)
      else stop

/-- A whole number. -/
def whole? : List Char → Taken
  | '0' :: 'x' :: s => behind ['0', 'x'] (wholeDigits? 16 false s)
  | '0' :: 'o' :: s => behind ['0', 'o'] (wholeDigits? 8 false s)
  | '0' :: 'b' :: s => behind ['0', 'b'] (wholeDigits? 2 false s)
  | s => wholeDigits? 10 false s

/-- A number with its suffix; no part of a name may follow. -/
def ended (t : Taken) : Taken :=
  (withSuffix t).filter fun (_, rest) => !rest.head?.any Text.isIdentifierContinue

/-- A number; one with a point or an exponent where it can be read so. -/
def number? (s : List Char) : Taken :=
  if s.head?.any Char.isDigit then ended (fraction? false s) <|> ended (whole? s) else none

/-- A literal. -/
def token? : List Char → Taken
  | 'b' :: '\'' :: s => behind ['b', '\''] (character? .bytes s)
  | 'b' :: s => behind ['b'] (textLiteral? .bytes s)
  | 'c' :: s => behind ['c'] (textLiteral? .zeroEnded s)
  | '\'' :: s => behind ['\''] (character? .text s)
  | '"' :: s => textLiteral? .text ('"' :: s)
  | 'r' :: s => textLiteral? .text ('r' :: s)
  | s => number? s

end Literal

end Tablewright.Source
