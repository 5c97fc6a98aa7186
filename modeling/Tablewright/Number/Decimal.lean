import Tablewright.Number.Power
import Tablewright.Text.Numeral

/-!
# Decimal numbers

A decimal number is a whole coefficient of at most 96 bits with up to 28 decimal places. Its places
are part of its text (`1.50`) and not of its value: `Decimal.equals` compares values.
-/

namespace Tablewright

/-- A number `coefficient / 10 ^ places` with a sign; zero has none. -/
structure Decimal where
  negative : Bool
  coefficient : Nat
  places : Nat
  coefficient_lt : coefficient < twoTo 96
  places_le : places ≤ 28
  zero_positive : coefficient = 0 → negative = false
  deriving DecidableEq

namespace Decimal

/-- The number with these parts, if they fit. -/
def ofParts? (negative : Bool) (coefficient places : Nat) : Option Decimal :=
  if h : coefficient < twoTo 96 ∧ places ≤ 28 then
    some ⟨negative && coefficient != 0, coefficient, places, h.1, h.2, by simp +contextual⟩
  else none

/-- The number zero. -/
def zero : Decimal := ⟨false, 0, 0, by decide, by decide, fun _ => rfl⟩

instance : Inhabited Decimal := ⟨zero⟩

/-- An integer of 64 bits. -/
def ofInt64 (n : Int64) : Decimal :=
  ⟨decide (n.toInt < 0), n.toInt.natAbs, 0,
    by
      have h := n.toInt_lt
      have h' := n.le_toInt
      have bound : twoTo 96 = 79228162514264337593543950336 := rfl
      omega,
    by decide,
    by intro h; simp [Int.natAbs_eq_zero.1 h]⟩

/-- The text of the number: every decimal place is written. -/
def text (d : Decimal) : String :=
  let digits := Text.digits d.coefficient
  let whole := List.replicate (d.places + 1 - digits.length) '0' ++ digits
  let body :=
    if d.places = 0 then whole
    else whole.take (whole.length - d.places) ++ '.' :: whole.drop (whole.length - d.places)
  String.ofList (if d.negative then '-' :: body else body)

/-- Equality of values; the decimal places do not count. -/
def equals (a b : Decimal) : Bool :=
  a.coefficient * tenTo b.places == b.coefficient * tenTo a.places && a.negative == b.negative

/-! ## Reading -/

/-- What has been read of a number: its digits as a coefficient and, behind the point, how many of
them are decimal places. -/
structure Reading where
  coefficient : Nat
  places : Option Nat
  hasDigit : Bool

/-- The number with one more half-unit in its last place, if it fits with a place less at most. -/
def roundUp? (negative : Bool) (coefficient places : Nat) : Option Decimal :=
  if coefficient + 1 < twoTo 96 then ofParts? negative (coefficient + 1) places
  else if places = 0 then none
  else ofParts? negative ((coefficient + 5) / 10) (places - 1)

/-- The number cut behind its last digit that fits; the first digit that does not fit rounds it, half
up, and the text behind that digit does not count. -/
def cutAt? (negative : Bool) (coefficient places : Nat) (next : Char) : Option Decimal :=
  match Text.digitValue? next with
  | some d => if d < 5 then ofParts? negative coefficient places else roundUp? negative coefficient places
  | none => if next == '_' || next == '.' then ofParts? negative coefficient places else none

/-- Reads digits, one point and, behind a digit, underscores that do not count. -/
def readBody? (negative : Bool) (r : Reading) : List Char → Option Decimal
  | [] => if r.hasDigit then ofParts? negative r.coefficient (r.places.getD 0) else none
  | c :: rest =>
    if r.places = some 28 then cutAt? negative r.coefficient 28 c
    else
      match Text.digitValue? c with
      | some d =>
        if r.coefficient * 10 + d < twoTo 96 then
          readBody? negative ⟨r.coefficient * 10 + d, r.places.map (· + 1), true⟩ rest
        else r.places.bind fun places => cutAt? negative r.coefficient places c
      | none =>
        if c == '.' && r.places.isNone then readBody? negative { r with places := some 0 } rest
        else if c == '_' && r.hasDigit then readBody? negative r rest
        else none

/-- The number that a text stands for. Decimal places that do not fit are rounded, half up. -/
def read? (s : List Char) : Option Decimal :=
  match s with
  | '-' :: rest => readBody? true ⟨0, none, false⟩ rest
  | '+' :: rest => readBody? false ⟨0, none, false⟩ rest
  | _ => readBody? false ⟨0, none, false⟩ s

end Decimal

end Tablewright
