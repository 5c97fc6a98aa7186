/-!
# Numerals

Decimal and hexadecimal numerals as lists of characters. `digits` writes a natural number without
leading zeros, `readDigits?` reads any non-empty run of decimal digits, and `readDigits?_digits`
says that reading undoes writing. The signed readers accept one leading sign and a range.
-/

namespace Tablewright.Text

/-- The character of a digit below sixteen, letters in lower case. -/
def digitChar (d : Nat) : Char :=
  if d < 10 then Char.ofNat (48 + d) else Char.ofNat (87 + d)

/-- The value of a decimal digit. -/
def digitValue? (c : Char) : Option Nat :=
  if '0' ≤ c ∧ c ≤ '9' then some (c.toNat - 48) else none

/-- The value of a hexadecimal digit in either case. -/
def hexValue? (c : Char) : Option Nat :=
  if '0' ≤ c ∧ c ≤ '9' then some (c.toNat - 48)
  else if 'a' ≤ c ∧ c ≤ 'f' then some (c.toNat - 87)
  else if 'A' ≤ c ∧ c ≤ 'F' then some (c.toNat - 55)
  else none

/-- The decimal digits of a natural number, most significant first. -/
def digits (n : Nat) : List Char :=
  if n < 10 then [digitChar n] else digits (n / 10) ++ [digitChar (n % 10)]
termination_by n
decreasing_by omega

/-- The decimal numeral of a natural number. -/
def numeral (n : Nat) : String :=
  String.ofList (digits n)

/-- The decimal numeral of an integer, with a sign only if it is negative. -/
def signedNumeral (n : Int) : String :=
  if n < 0 then "-" ++ numeral n.natAbs else numeral n.natAbs

/-- The value of a run of decimal digits behind those already read. -/
def readDigitsFrom? (value : Nat) : List Char → Option Nat
  | [] => some value
  | c :: s => (digitValue? c).bind fun d => readDigitsFrom? (value * 10 + d) s

/-- The value of a non-empty run of decimal digits. -/
def readDigits? : List Char → Option Nat
  | [] => none
  | s => readDigitsFrom? 0 s

/-- A natural number of at most `limit`, with an optional plus sign. -/
def readNat? (limit : Nat) (s : List Char) : Option Nat :=
  let body := match s with
    | '+' :: rest => rest
    | _ => s
  (readDigits? body).filter (· ≤ limit)

/-- An integer from `low` to `high`, with an optional sign. -/
def readInt? (low high : Int) (s : List Char) : Option Int :=
  let value := match s with
    | '+' :: rest => (readDigits? rest).map Int.ofNat
    | '-' :: rest => (readDigits? rest).map fun n => -(n : Int)
    | _ => (readDigits? s).map Int.ofNat
  value.filter fun n => low ≤ n ∧ n ≤ high

/-- The numeral in `width` places at least, filled with zeros on the left. -/
def padded (width n : Nat) : String :=
  let text := digits n
  String.ofList (List.replicate (width - text.length) '0' ++ text)

/-- The hexadecimal digits of a number in exactly `width` places. -/
def hexDigits (width n : Nat) : List Char :=
  match width with
  | 0 => []
  | width + 1 => hexDigits width (n / 16) ++ [digitChar (n % 16)]

/-- The lower-case hexadecimal numeral without leading zeros. -/
def hexNumeral (n : Nat) : String :=
  if n = 0 then "0" else String.ofList (hexDigits ((n.log2 + 4) / 4) n)

theorem digitValue?_digitChar {d : Nat} (h : d < 10) : digitValue? (digitChar d) = some d := by
  match d, h with
  | 0, _ | 1, _ | 2, _ | 3, _ | 4, _ | 5, _ | 6, _ | 7, _ | 8, _ | 9, _ => rfl

theorem digits_ne_nil (n : Nat) : digits n ≠ [] := by
  rw [digits]
  split <;> simp

theorem readDigitsFrom?_append (value : Nat) (s t : List Char) :
    readDigitsFrom? value (s ++ t) = (readDigitsFrom? value s).bind (readDigitsFrom? · t) := by
  induction s generalizing value with
  | nil => rfl
  | cons c s ih =>
    simp only [List.cons_append, readDigitsFrom?]
    cases digitValue? c with
    | none => rfl
    | some d => simp [ih]

theorem readDigitsFrom?_digits (n : Nat) : readDigitsFrom? 0 (digits n) = some n := by
  fun_induction digits n with
  | case1 n h => simp [readDigitsFrom?, digitValue?_digitChar h]
  | case2 n h ih =>
    rw [readDigitsFrom?_append, ih]
    simp only [Option.bind_some, readDigitsFrom?,
      digitValue?_digitChar (Nat.mod_lt n (by decide : 0 < 10)), Option.some.injEq]
    omega

/-- Reading a written numeral gives the number back. -/
theorem readDigits?_digits (n : Nat) : readDigits? (digits n) = some n := by
  have h := readDigitsFrom?_digits n
  cases hd : digits n with
  | nil => exact absurd hd (digits_ne_nil n)
  | cons c s => simpa [readDigits?, hd] using h

/-- Different numbers have different numerals. -/
theorem numeral_inj {m n : Nat} (h : numeral m = numeral n) : m = n := by
  have hdigits : digits m = digits n := String.ofList_injective h
  have hread : readDigits? (digits m) = readDigits? (digits n) := by rw [hdigits]
  rwa [readDigits?_digits, readDigits?_digits, Option.some.injEq] at hread

end Tablewright.Text
