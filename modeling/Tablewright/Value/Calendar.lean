import Tablewright.Text.Numeral

/-!
# Dates and times of day

Dates of the Gregorian calendar, carried on before its adoption, and times of day to the nanosecond.
A `Date` and a `TimeOfDay` hold only valid parts. A leap second is a second 59 with a billion
nanoseconds or more.
-/

namespace Tablewright

/-- Whether the year has 366 days. -/
def isLeapYear (year : Int) : Bool :=
  year % 4 == 0 && (year % 100 != 0 || year % 400 == 0)

/-- The number of days of a month. -/
def daysInMonth (year : Int) (month : Nat) : Nat :=
  if month = 2 then if isLeapYear year then 29 else 28
  else if month = 4 ∨ month = 6 ∨ month = 9 ∨ month = 11 then 30
  else 31

/-- A day of a year from -262143 to 262142. -/
structure Date where
  year : Int
  month : Nat
  day : Nat
  year_mem : -262143 ≤ year ∧ year ≤ 262142
  month_mem : 1 ≤ month ∧ month ≤ 12
  day_mem : 1 ≤ day ∧ day ≤ daysInMonth year month
  deriving DecidableEq

/-- A time of day. -/
structure TimeOfDay where
  hour : Nat
  minute : Nat
  second : Nat
  nanosecond : Nat
  hour_lt : hour < 24
  minute_lt : minute < 60
  second_lt : second < 60
  nanosecond_lt : nanosecond < 1000000000 ∨ (second = 59 ∧ nanosecond < 2000000000)
  deriving DecidableEq

/-- A day and a time on it. -/
structure DateTime where
  date : Date
  time : TimeOfDay
  deriving DecidableEq

namespace Date

/-- The date with these parts, if there is one. -/
def of? (year : Int) (month day : Nat) : Option Date :=
  if h : (-262143 ≤ year ∧ year ≤ 262142) ∧ (1 ≤ month ∧ month ≤ 12) ∧
      (1 ≤ day ∧ day ≤ daysInMonth year month) then
    some ⟨year, month, day, h.1, h.2.1, h.2.2⟩
  else none

/-- A year in four places; years of other lengths and negative years carry a sign. -/
def yearText (year : Int) : String :=
  if 0 ≤ year ∧ year ≤ 9999 then Text.padded 4 year.toNat
  else (if year < 0 then "-" else "+") ++ Text.padded 4 year.natAbs

/-- The date as `2024-01-31`. -/
def text (d : Date) : String :=
  yearText d.year ++ "-" ++ Text.padded 2 d.month ++ "-" ++ Text.padded 2 d.day

/-! ## Counting days -/

/-- Days from the first of March of year 0 to the first of March of a year. -/
def daysToMarch (year : Int) : Int :=
  365 * year + year / 4 - year / 100 + year / 400

/-- Days from the first of March to the first of a month, months counted from March. -/
def daysToMonth (monthFromMarch : Nat) : Nat :=
  (153 * monthFromMarch + 2) / 5

/-- The number of the day, counted from 1970-01-01. -/
def toDays (d : Date) : Int :=
  let early := d.month ≤ 2
  let year := if early then d.year - 1 else d.year
  let month := if early then d.month + 9 else d.month - 3
  daysToMarch year + daysToMonth month + d.day - 1 - 719468

/-- The date with a number, counted from 1970-01-01. -/
def ofDays? (days : Int) : Option Date :=
  let n := days + 719468
  let era := n / 146097
  let dayOfEra := (n % 146097).toNat
  let yearOfEra := (dayOfEra - dayOfEra / 1460 + dayOfEra / 36524 - dayOfEra / 146096) / 365
  let dayOfYear := dayOfEra - (365 * yearOfEra + yearOfEra / 4 - yearOfEra / 100)
  let month := (5 * dayOfYear + 2) / 153
  let day := dayOfYear - daysToMonth month + 1
  let year : Int := yearOfEra + era * 400
  if month < 10 then of? year (month + 3) day else of? (year + 1) (month - 9) day

end Date

namespace TimeOfDay

/-- The time with these parts, if there is one. -/
def of? (hour minute second nanosecond : Nat) : Option TimeOfDay :=
  if h : hour < 24 ∧ minute < 60 ∧ second < 60 ∧
      (nanosecond < 1000000000 ∨ (second = 59 ∧ nanosecond < 2000000000)) then
    some ⟨hour, minute, second, nanosecond, h.1, h.2.1, h.2.2.1, h.2.2.2⟩
  else none

/-- The fraction of a second in 0, 3, 6 or 9 places. -/
def fractionText (nanosecond : Nat) : String :=
  if nanosecond = 0 then ""
  else if nanosecond % 1000000 = 0 then "." ++ Text.padded 3 (nanosecond / 1000000)
  else if nanosecond % 1000 = 0 then "." ++ Text.padded 6 (nanosecond / 1000)
  else "." ++ Text.padded 9 nanosecond

/-- The time as `01:02:03.450`; a leap second is second 60. -/
def text (t : TimeOfDay) : String :=
  let leap := 1000000000 ≤ t.nanosecond
  let second := if leap then t.second + 1 else t.second
  let nanosecond := if leap then t.nanosecond - 1000000000 else t.nanosecond
  Text.padded 2 t.hour ++ ":" ++ Text.padded 2 t.minute ++ ":" ++ Text.padded 2 second ++
    fractionText nanosecond

end TimeOfDay

/-- The date and the time, with a text between them. -/
def DateTime.textWith (between : String) (d : DateTime) : String :=
  d.date.text ++ between ++ d.time.text

end Tablewright
