import Tablewright.Number.Binary
import Tablewright.Number.Power
import Tablewright.Text.Numeral

/-!
# The shortest decimal text of a binary number

A finite number is written with the fewest decimal digits that read back as the same number; of two
such texts the nearer to the number is taken, and of two equally near ones the greater. The text is
positional at every magnitude.
-/

namespace Tablewright

/-- A decimal number `coefficient * 10 ^ exponent`. -/
structure DecimalDigits where
  coefficient : Nat
  exponent : Int
  deriving DecidableEq, Repr

namespace Shortest

/-- The fraction `numerator / denominator` divided by `10 ^ exponent`, as a fraction. -/
def unscale (numerator denominator : Nat) (exponent : Int) : Nat × Nat :=
  match exponent with
  | .ofNat n => (numerator, denominator * tenTo n)
  | .negSucc n => (numerator * tenTo (n + 1), denominator)

/-- The greatest exponent `e` with `10 ^ e ≤ numerator / denominator`. -/
def decimalOrder (numerator denominator : Nat) : Int :=
  if denominator ≤ numerator then ((Text.digits (numerator / denominator)).length : Int) - 1
  else
    let places := (Text.digits (denominator / numerator)).length
    if denominator ≤ numerator * tenTo (places - 1) then 1 - (places : Int) else -(places : Int)

/-- The numbers that read back as one given number: it and its bounds, in quarter units of
`2 ^ exponent`, and whether the bounds belong to them. -/
structure Neighbourhood where
  low : Nat
  center : Nat
  high : Nat
  exponent : Int
  closed : Bool

/-- The neighbourhood of a positive number. It is narrower below a power of two. -/
def neighbourhood (f : BinaryFormat) (significand : Nat) (exponent : Int) : Neighbourhood :=
  let narrow := significand == twoTo f.fractionBits && exponent != f.minExponent
  { low := 4 * significand - (if narrow then 1 else 2)
    center := 4 * significand
    high := 4 * significand + 2
    exponent := exponent - 2
    closed := significand % 2 == 0 }

/-- Whether `n` units of `10 ^ exponent` lie in the neighbourhood. -/
def Neighbourhood.holds (h : Neighbourhood) (n : Nat) (exponent : Int) : Bool :=
  let (low, lowUnit) := (fun (a, b) => unscale a b exponent) (BinaryFormat.scale h.low 1 h.exponent)
  let (high, highUnit) := (fun (a, b) => unscale a b exponent) (BinaryFormat.scale h.high 1 h.exponent)
  if h.closed then low ≤ n * lowUnit && n * highUnit ≤ high
  else low < n * lowUnit && n * highUnit < high

/-- The number on the grid of `10 ^ exponent` that reads back and is nearest, if one reads back. -/
def Neighbourhood.onGrid? (h : Neighbourhood) (exponent : Int) : Option Nat :=
  let (n, d) := (fun (a, b) => unscale a b exponent) (BinaryFormat.scale h.center 1 h.exponent)
  let below := n / d
  match h.holds below exponent, h.holds (below + 1) exponent with
  | true, true => some (if 2 * (n % d) < d then below else below + 1)
  | true, false => some below
  | false, true => some (below + 1)
  | false, false => none

/-- The first grid with a number that reads back, from one of `order` on downwards. -/
def Neighbourhood.search (h : Neighbourhood) (order : Int) : Nat → DecimalDigits
  | 0 => ⟨h.center, order⟩
  | fuel + 1 =>
    match h.onGrid? order with
    | some n => ⟨n, order⟩
    | none => h.search (order - 1) fuel

/-- The shortest digits of a positive number; 17 digits always suffice. -/
def digits (f : BinaryFormat) (significand : Nat) (exponent : Int) : DecimalDigits :=
  let h := neighbourhood f significand exponent
  let (n, d) := BinaryFormat.scale significand 1 exponent
  h.search (decimalOrder n d) 18

end Shortest

/-- The digits in positional notation, without a point if there is no fraction. -/
def DecimalDigits.positional (d : DecimalDigits) : String :=
  let text := (Text.digits d.coefficient).reverse.dropWhile (· == '0') |>.reverse
  let dropped := (Text.digits d.coefficient).length - text.length
  match d.exponent + dropped with
  | .ofNat n => String.ofList (text ++ List.replicate n '0')
  | .negSucc n =>
    let places := n + 1
    if places < text.length then
      String.ofList (text.take (text.length - places) ++ '.' :: text.drop (text.length - places))
    else String.ofList ('0' :: '.' :: List.replicate (places - text.length) '0' ++ text)

/-- The text of a number of a format. -/
def FloatValue.text (f : BinaryFormat) : FloatValue → String
  | .nan => "NaN"
  | .infinity negative => if negative then "-inf" else "inf"
  | .finite negative significand exponent =>
    let body := if significand = 0 then "0" else (Shortest.digits f significand exponent).positional
    if negative then "-" ++ body else body

/-- The shortest text that reads back as the number. -/
def Single.text (x : Single) : String :=
  x.value.text .single

/-- The shortest text that reads back as the number. -/
def Double.text (x : Double) : String :=
  x.value.text .double

end Tablewright
