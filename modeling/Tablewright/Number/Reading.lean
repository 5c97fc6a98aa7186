import Tablewright.Number.Binary
import Tablewright.Number.Power

/-!
# Reading binary numbers

The binary number nearest to a decimal numeral with a point and an exponent. A numeral far beyond
every finite number is infinite and one far below the least is zero, without its power being built.
-/

namespace Tablewright

/-- A numeral: its digits as one number, and the power of ten it is multiplied by. -/
structure Numeral where
  digits : Nat
  exponent : Int
  deriving DecidableEq, Repr

namespace Numeral

/-- The power of ten beyond which every number of 64 bits is infinite or zero. -/
def reach : Int := 400

/-- The pattern of the magnitude nearest to a numeral. -/
def encode (f : BinaryFormat) (n : Numeral) : Nat :=
  if n.digits = 0 then 0
  else
    let order := n.exponent + (n.digits.log2 : Int) * 30103 / 100000
    if reach < order then f.infinityBits
    else if order < -reach then 0
    else
      match n.exponent with
      | .ofNat e => f.encodeMagnitude (n.digits * tenTo e) 1
      | .negSucc e => f.encodeMagnitude n.digits (tenTo (e + 1))

/-- The number of 64 bits nearest to a numeral. -/
def toDouble (n : Numeral) : Double :=
  ⟨UInt64.ofNat (n.encode .double)⟩

/-- The number of 32 bits nearest to a numeral. -/
def toSingle (n : Numeral) : Single :=
  ⟨UInt32.ofNat (n.encode .single)⟩

end Numeral

end Tablewright
