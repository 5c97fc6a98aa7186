import Tablewright.Number.Power
import Tablewright.Number.Reading
import Tablewright.Source.LiteralToken

/-!
# What literals stand for

The text of a quoted literal, the value of a whole number, and the value of a number with a fraction.
A suffix of a number names its type and does not change its value.
-/

namespace Tablewright.Source

/-- The value of a literal, as far as one is read. -/
inductive LiteralValue where
  | text (s : String)
  | int (n : Nat)
  | float (x : Double)
  | bool (b : Bool)
  /-- Characters, bytes and numbers that are too large. -/
  | other
  deriving DecidableEq

namespace LiteralValue

/-! ## Texts -/

/-- The character that an escape with a letter stands for. -/
def letterEscape (c : Char) : Char :=
  if c == 'n' then '\n'
  else if c == 'r' then '\r'
  else if c == 't' then '\t'
  else if c == '0' then '\x00'
  else c

/-- What a quoted text stands for, read from behind its opening quote; the first argument bounds its
length. -/
def cooked : Nat → List Char → List Char
  | 0, _ => []
  | fuel + 1, s =>
    match s with
    | [] | '"' :: _ => []
    | '\r' :: '\n' :: s => '\n' :: cooked fuel s
    | '\\' :: 'x' :: a :: b :: s =>
      Char.ofNat ((Text.hexValue? a).getD 0 * 16 + (Text.hexValue? b).getD 0) :: cooked fuel s
    | '\\' :: 'u' :: '\x7b' :: s =>
      match Literal.unicodeDigits? 0 0 s with
      | some (value, _, rest) => Char.ofNat value :: cooked fuel rest
      | none => []
    | '\\' :: c :: s =>
      if c == '\n' || c == '\r' then
        cooked fuel (s.dropWhile fun c => c == ' ' || c == '\t' || c == '\n' || c == '\r')
      else letterEscape c :: cooked fuel s
    | c :: s => c :: cooked fuel s

/-- What a raw text stands for, read from its first number sign or quote on. -/
def rawContent (s : List Char) : List Char :=
  match Literal.raw? .text s with
  | some (taken, _) =>
    let signs := (taken.takeWhile (· == '#')).length
    (taken.drop (signs + 1)).take (taken.length - 2 * (signs + 1))
  | none => []

/-! ## Numbers -/

/-- Whether a text can follow a number as its suffix: nothing, or a name. -/
def isSuffix (s : List Char) : Bool :=
  match s with
  | [] => true
  | c :: rest => Text.isIdentifierStart c && rest.all Text.isIdentifierContinue

/-- Whether digits with an exponent begin: what stands behind the letter is digits and underscores
with a digit at least, and either nothing or a suffix follows. -/
def isExponent (hasDigit : Bool) : List Char → Bool
  | [] => hasDigit
  | c :: s =>
    if c == '_' then isExponent hasDigit s
    else if c == '+' || c == '-' then true
    else if c.isDigit then isExponent true s
    else hasDigit && isSuffix (c :: s)

/-- The value of whole digits of a base and the text behind them. No number with a point or an
exponent is whole. -/
def wholeFrom? (base value : Nat) (hasDigit : Bool) : List Char → Option (Nat × List Char)
  | [] => if hasDigit then some (value, []) else none
  | c :: s =>
    let stop := if hasDigit && isSuffix (c :: s) then some (value, c :: s) else none
    if c == '_' then wholeFrom? base value hasDigit s
    else if base == 10 && c == '.' then none
    else if base == 10 && (c == 'e' || c == 'E') then
      if isExponent false s then none else stop
    else
      match Text.hexValue? c with
      | some d =>
        if c.isDigit || 10 < base then
          if d < base then wholeFrom? base (value * base + d) true s else none
        else stop
      | none => stop

/-- The value of a whole number and its suffix. -/
def whole? : List Char → Option (Nat × List Char)
  | '0' :: 'x' :: s => wholeFrom? 16 0 false s
  | '0' :: 'o' :: s => wholeFrom? 8 0 false s
  | '0' :: 'b' :: s => wholeFrom? 2 0 false s
  | s => wholeFrom? 10 0 false s

/-- The digits before and behind the point, and the exponent, of a number with a fraction. -/
structure FloatParts where
  digits : List Char
  places : Nat
  exponent : Option (List Char)

/-- The parts of a number from within it: `point` and `exponent` say what has been passed. -/
def floatFrom (parts : FloatParts) (point : Bool) : List Char → FloatParts
  | [] => parts
  | c :: s =>
    match parts.exponent with
    | some e =>
      if c.isDigit || c == '-' then floatFrom { parts with exponent := some (e ++ [c]) } point s
      else if c == '+' || c == '_' then floatFrom parts point s
      else parts
    | none =>
      if c.isDigit then
        floatFrom { parts with
          digits := parts.digits ++ [c]
          places := if point then parts.places + 1 else parts.places } point s
      else if c == '.' then floatFrom parts true s
      else if c == '_' then floatFrom parts point s
      else if (c == 'e' || c == 'E') && isExponent false s then
        floatFrom { parts with exponent := some [] } point s
      else parts

/-- The numeral of a number with a fraction. -/
def floatNumeral (s : List Char) : Numeral :=
  let parts := floatFrom ⟨[], 0, none⟩ false s
  let exponent : Int := match parts.exponent with
    | some ('-' :: e) => -((Text.readDigits? e).getD 0 : Nat)
    | some e => ((Text.readDigits? e).getD 0 : Nat)
    | none => 0
  ⟨(Text.readDigits? parts.digits).getD 0, exponent - parts.places⟩

/-- The greatest whole number that is read, and one more. -/
def wholeLimit : Nat := twoTo 128

/-- The value of a literal as written. -/
def ofToken (text : String) : LiteralValue :=
  match text.toList with
  | '"' :: s => .text (String.ofList (cooked (s.length + 1) s))
  | 'r' :: s => .text (String.ofList (rawContent s))
  | c :: s =>
    if c.isDigit then
      match whole? (c :: s) with
      | some (n, _) => if n < wholeLimit then .int n else .other
      | none => .float (floatNumeral (c :: s)).toDouble
    else .other
  | [] => .other

end LiteralValue

end Tablewright.Source
