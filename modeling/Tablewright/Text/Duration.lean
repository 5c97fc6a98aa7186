import Tablewright.Text.Numeral

/-!
# Durations

The text of a duration in its greatest unit that it fills at least once, with as many decimal places
as it needs.
-/

namespace Tablewright.Text

/-- A fraction of a unit of `places` places, without trailing zeros. -/
def fractionOf (places n : Nat) : String :=
  let digits := ((padded places n).toList.reverse.dropWhile (· == '0')).reverse
  if digits.isEmpty then "" else String.ofList ('.' :: digits)

/-- A number of nanoseconds as `1.5s`, `20ms`, `7µs` or `3ns`. -/
def durationText (nanoseconds : Nat) : String :=
  let inUnit (unit places : Nat) (name : String) : String :=
    numeral (nanoseconds / unit) ++ fractionOf places (nanoseconds % unit) ++ name
  if 1000000000 ≤ nanoseconds then inUnit 1000000000 9 "s"
  else if 1000000 ≤ nanoseconds then inUnit 1000000 6 "ms"
  else if 1000 ≤ nanoseconds then inUnit 1000 3 "µs"
  else numeral nanoseconds ++ "ns"

end Tablewright.Text
