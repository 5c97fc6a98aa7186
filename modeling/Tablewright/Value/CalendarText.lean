import Tablewright.Number.Power
import Tablewright.Text.Blank
import Tablewright.Value.Calendar

/-!
# Reading dates and times

Dates and times as a database writes them: `2024-01-31`, `01:02:03.5` and the two with a blank between
them, followed by the distance from universal time where there is one. Each reader takes its part from
the front of a text and answers the text behind it as well.
-/

namespace Tablewright.Calendar

/-- At most `most` leading digits, but one at least. -/
def takeNumber (most : Nat) (s : List Char) : Option (Nat × List Char) :=
  let digits := (s.take most).takeWhile fun c => (Text.digitValue? c).isSome
  (Text.readDigits? digits).map fun n => (n, s.drop digits.length)

/-- At most `most` digits behind white space. -/
def takeField (most : Nat) (s : List Char) : Option (Nat × List Char) :=
  takeNumber most (Text.trimStart s)

/-- One character. -/
def takeChar (expected : Char) : List Char → Option (List Char)
  | [] => none
  | c :: s => if c = expected then some s else none

/-- A year: four digits at most, or any number of them behind a sign. -/
def takeYear (s : List Char) : Option (Int × List Char) :=
  let s := Text.trimStart s
  match s with
  | '-' :: rest => (takeNumber rest.length rest).map fun (n, s) => (-(n : Int), s)
  | '+' :: rest => (takeNumber rest.length rest).map fun (n, s) => ((n : Int), s)
  | _ => (takeNumber 4 s).map fun (n, s) => ((n : Int), s)

/-- A date. -/
def takeDate (s : List Char) : Option (Date × List Char) := do
  let (year, s) ← takeYear s
  let (month, s) ← takeField 2 (← takeChar '-' s)
  let (day, s) ← takeField 2 (← takeChar '-' s)
  return (← Date.of? year month day, s)

/-- A fraction of a second in nanoseconds, if there is one; digits behind the ninth do not count. -/
def takeFraction : List Char → Option (Nat × List Char)
  | '.' :: s =>
    let digits := s.takeWhile fun c => (Text.digitValue? c).isSome
    let counted := digits.take 9
    (Text.readDigits? counted).map fun n => (n * tenTo (9 - counted.length), s.drop digits.length)
  | s => some (0, s)

/-- A time; second 60 is a leap second. -/
def takeTime (s : List Char) : Option (TimeOfDay × List Char) := do
  let (hour, s) ← takeField 2 s
  let (minute, s) ← takeField 2 (← takeChar ':' s)
  let (second, s) ← takeField 2 (← takeChar ':' s)
  let (nanosecond, s) ← takeFraction s
  let time ←
    if second = 60 then TimeOfDay.of? hour minute 59 (1000000000 + nanosecond)
    else TimeOfDay.of? hour minute second nanosecond
  return (time, s)

/-- A date and a time behind it. -/
def takeDateTime (s : List Char) : Option (DateTime × List Char) := do
  let (date, s) ← takeDate s
  let (time, s) ← takeTime s
  return (⟨date, time⟩, s)

/-- Two digits. -/
def takeTwoDigits : List Char → Option (Nat × List Char)
  | a :: b :: s => do return ((← Text.digitValue? a) * 10 + (← Text.digitValue? b), s)
  | _ => none

/-- The minutes of a distance; none stand for 0. -/
def takeMinutes (s : List Char) : Option (Nat × List Char) :=
  if s.isEmpty then some (0, s) else (takeTwoDigits s).filter (·.1 < 60)

/-- The distance from universal time in minutes: `Z`, or hours and perhaps minutes behind a sign. -/
def takeOffset (s : List Char) : Option (Int × List Char) :=
  match Text.trimStart s with
  | [] => none
  | c :: s => do
    if c = 'Z' ∨ c = 'z' then return (0, s)
    let negative ← if c = '+' then some false else if c = '-' ∨ c = '\u2212' then some true else none
    let (hours, s) ← takeTwoDigits s
    let (minutes, s) ← takeMinutes (s.dropWhile fun c => c == ':' || Text.isBlank c)
    let total := hours * 60 + minutes
    if 24 * 60 ≤ total then none
    return (if negative then -(total : Int) else total, s)

/-- What was read, if nothing is left behind it. -/
def whole {α : Type} : Option (α × List Char) → Option α
  | some (x, []) => some x
  | _ => none

end Tablewright.Calendar

namespace Tablewright

open Calendar

/-- The date of a text. -/
def Date.read? (s : List Char) : Option Date := whole (takeDate s)

/-- The time of a text. -/
def TimeOfDay.read? (s : List Char) : Option TimeOfDay := whole (takeTime s)

namespace DateTime

/-- The date and time of a text. A distance from universal time is read where a plus sign stands, and
does not count. -/
def read? (s : List Char) : Option DateTime := do
  let (d, s') ← takeDateTime s
  if s.contains '+' then
    let _ ← whole (takeOffset s')
    return d
  else whole (some (d, s'))

/-- The date and time some minutes earlier. -/
def minusMinutes? (d : DateTime) (minutes : Int) : Option DateTime := do
  let total := d.date.toDays * 1440 + (d.time.hour * 60 + d.time.minute : Nat) - minutes
  let date ← Date.ofDays? (total / 1440)
  let ofDay := (total % 1440).toNat
  let time ← TimeOfDay.of? (ofDay / 60) (ofDay % 60) d.time.second d.time.nanosecond
  return ⟨date, time⟩

/-- The universal date and time of a text with a distance from universal time. -/
def readUtc? (s : List Char) : Option DateTime := do
  let (d, s) ← takeDateTime s
  d.minusMinutes? (← whole (takeOffset s))

/-- The date and time so many microseconds after midnight of a day, counted from 1970-01-01. -/
def ofMicroseconds? (day microseconds : Int) : Option DateTime := do
  let date ← Date.ofDays? (day + microseconds / 86400000000)
  let ofDay := (microseconds % 86400000000).toNat
  let second := ofDay / 1000000
  let time ← TimeOfDay.of? (second / 3600) (second / 60 % 60) (second % 60) (ofDay % 1000000 * 1000)
  return ⟨date, time⟩

end DateTime

end Tablewright
