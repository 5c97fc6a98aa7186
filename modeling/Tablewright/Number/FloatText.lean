import Tablewright.Number.Reading
import Tablewright.Text.Numeral

/-!
# Binary numbers as text

The number that a text stands for: `nan`, `inf` and `infinity` in any case of letters, or decimal
digits with a point among them and an exponent behind them.
-/

namespace Tablewright

namespace Numeral

/-- The leading decimal digits of a text, and the rest. -/
def takeDigits (s : List Char) : List Char × List Char :=
  s.span fun c => (Text.digitValue? c).isSome

/-- An exponent, if the text is one from its letter on; the empty text is none and stands for 0. -/
def readExponent? : List Char → Option Int
  | [] => some 0
  | c :: s =>
    if c = 'e' ∨ c = 'E' then
      match s with
      | '-' :: s => (Text.readDigits? s).map fun n => -(n : Int)
      | '+' :: s => (Text.readDigits? s).map Int.ofNat
      | s => (Text.readDigits? s).map Int.ofNat
    else none

/-- The numeral of a text without a sign. -/
def read? (s : List Char) : Option Numeral := do
  let (whole, rest) := takeDigits s
  let (fraction, rest) := match rest with
    | '.' :: rest => takeDigits rest
    | rest => ([], rest)
  let digits ← Text.readDigits? (whole ++ fraction)
  let exponent ← readExponent? rest
  return ⟨digits, exponent - fraction.length⟩

end Numeral

namespace BinaryFormat

/-- The pattern of the magnitude that a text without a sign stands for. -/
def readMagnitude? (f : BinaryFormat) (s : List Char) : Option Nat :=
  let lower := s.map Char.toLower
  if lower = "nan".toList then some f.nanBits
  else if lower = "inf".toList ∨ lower = "infinity".toList then some f.infinityBits
  else (Numeral.read? s).map (Numeral.encode f)

/-- The pattern of the number that a text stands for. -/
def read? (f : BinaryFormat) : List Char → Option Nat
  | '-' :: s => (f.readMagnitude? s).map (f.signBit + ·)
  | '+' :: s => f.readMagnitude? s
  | s => f.readMagnitude? s

end BinaryFormat

/-- The number of 32 bits that a text stands for. -/
def Single.read? (s : List Char) : Option Single :=
  (BinaryFormat.single.read? s).map fun bits => ⟨UInt32.ofNat bits⟩

/-- The number of 64 bits that a text stands for. -/
def Double.read? (s : List Char) : Option Double :=
  (BinaryFormat.double.read? s).map fun bits => ⟨UInt64.ofNat bits⟩

end Tablewright
