import Tablewright.Number.Power

/-!
# Binary floating-point numbers

Numbers of the two interchange formats as bit patterns. `BinaryFormat.decode` gives the exact value
of a pattern, `BinaryFormat.encode` the pattern nearest to a fraction, ties going to the even
significand; all arithmetic between them is on natural numbers. `Single` and `Double` are the two
formats that columns hold.
-/

namespace Tablewright

/-- The widths of the two fields behind the sign. -/
structure BinaryFormat where
  fractionBits : Nat
  exponentBits : Nat

/-- What a bit pattern stands for; a finite value is `significand * 2 ^ exponent`. -/
inductive FloatValue where
  | nan
  | infinity (negative : Bool)
  | finite (negative : Bool) (significand : Nat) (exponent : Int)
  deriving DecidableEq, Repr, Inhabited

namespace BinaryFormat

/-- 32 bits. -/
def single : BinaryFormat := ⟨23, 8⟩

/-- 64 bits. -/
def double : BinaryFormat := ⟨52, 11⟩

variable (f : BinaryFormat)

/-- The position of the sign bit as a number. -/
def signBit : Nat :=
  twoTo (f.fractionBits + f.exponentBits)

/-- The pattern of positive infinity. -/
def infinityBits : Nat :=
  (twoTo f.exponentBits - 1) * twoTo f.fractionBits

/-- A pattern that stands for no number. -/
def nanBits : Nat :=
  f.infinityBits + twoTo (f.fractionBits - 1)

/-- The least exponent of a finite value. -/
def minExponent : Int :=
  2 - twoTo (f.exponentBits - 1) - f.fractionBits

/-- The value of a pattern. -/
def decode (bits : Nat) : FloatValue :=
  let negative := decide (f.signBit ≤ bits)
  let magnitude := bits % f.signBit
  let field := magnitude / twoTo f.fractionBits
  let fraction := magnitude % twoTo f.fractionBits
  if field = twoTo f.exponentBits - 1 then
    if fraction = 0 then .infinity negative else .nan
  else if field = 0 then .finite negative fraction f.minExponent
  else .finite negative (twoTo f.fractionBits + fraction) (f.minExponent + (field - 1 : Nat))

/-- The fraction `numerator / denominator` times `2 ^ shift`, as a fraction. -/
def scale (numerator denominator : Nat) (shift : Int) : Nat × Nat :=
  match shift with
  | .ofNat n => (numerator * twoTo n, denominator)
  | .negSucc n => (numerator, denominator * twoTo (n + 1))

/-- The whole number nearest to a fraction, a half going to the even neighbour. -/
def roundHalfEven (numerator denominator : Nat) : Nat :=
  let quotient := numerator / denominator
  let rest := 2 * (numerator % denominator)
  if rest < denominator then quotient
  else if rest > denominator then quotient + 1
  else quotient + quotient % 2

/-- The greatest exponent `e` with `2 ^ e ≤ numerator / denominator`. -/
def binaryOrder (numerator denominator : Nat) : Int :=
  let guess : Int := (numerator.log2 : Int) - denominator.log2
  let (n, d) := scale numerator denominator (-guess)
  if d ≤ n then guess else guess - 1

/-- The pattern of the magnitude nearest to a fraction; a magnitude beyond the greatest finite one is
infinite. Successive magnitudes have successive patterns, so that a significand that rounds up to the
next power of two needs no case of its own. -/
def encodeMagnitude (numerator denominator : Nat) : Nat :=
  if numerator = 0 then 0
  else
    let exponent := max f.minExponent (binaryOrder numerator denominator - f.fractionBits)
    let (n, d) := scale numerator denominator (-exponent)
    min f.infinityBits
      ((exponent - f.minExponent).toNat * twoTo f.fractionBits + roundHalfEven n d)

/-- The pattern nearest to a signed fraction. -/
def encode (negative : Bool) (numerator denominator : Nat) : Nat :=
  (if negative then f.signBit else 0) + f.encodeMagnitude numerator denominator

/-- The pattern nearest to a value of another format. -/
def encodeValue : FloatValue → Nat
  | .nan => f.nanBits
  | .infinity negative => (if negative then f.signBit else 0) + f.infinityBits
  | .finite negative significand exponent =>
    let (n, d) := scale significand 1 exponent
    f.encode negative n d

end BinaryFormat

/-- Equality of numbers: a pattern that is no number equals nothing, and the two zeros are equal. -/
def FloatValue.equals : FloatValue → FloatValue → Bool
  | .infinity a, .infinity b => a == b
  | .finite a m p, .finite b n q => (m == 0 && n == 0) || (a == b && m == n && p == q)
  | _, _ => false

/-- A number of 32 bits. -/
structure Single where
  bits : UInt32
  deriving DecidableEq, Repr, Inhabited

/-- A number of 64 bits. -/
structure Double where
  bits : UInt64
  deriving DecidableEq, Repr, Inhabited

/-- What the pattern stands for. -/
def Single.value (x : Single) : FloatValue :=
  BinaryFormat.single.decode x.bits.toNat

/-- What the pattern stands for. -/
def Double.value (x : Double) : FloatValue :=
  BinaryFormat.double.decode x.bits.toNat

/-- The nearest number of 32 bits. -/
def Double.toSingle (x : Double) : Single :=
  ⟨UInt32.ofNat (BinaryFormat.single.encodeValue x.value)⟩

/-- The same number in 64 bits. -/
def Single.toDouble (x : Single) : Double :=
  ⟨UInt64.ofNat (BinaryFormat.double.encodeValue x.value)⟩

/-- The number of 64 bits nearest to an integer. -/
def Double.ofInt (n : Int) : Double :=
  ⟨UInt64.ofNat (BinaryFormat.double.encode (n < 0) n.natAbs 1)⟩

/-- The number with the other sign. -/
def Double.neg (x : Double) : Double :=
  ⟨x.bits ^^^ 0x8000000000000000⟩

/-- Whether the pattern stands for no number. -/
def FloatValue.isNan : FloatValue → Bool
  | .nan => true
  | _ => false

end Tablewright
