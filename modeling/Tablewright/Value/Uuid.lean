import Tablewright.Text.Numeral

/-!
# Universally unique identifiers

An identifier is a number of 128 bits, written as 32 hexadecimal digits in five groups.
-/

namespace Tablewright

/-- A number of 128 bits. -/
structure Uuid where
  bits : BitVec 128
  deriving DecidableEq, Inhabited

namespace Uuid

/-- The digits in groups of 8, 4, 4, 4 and 12, in lower case. -/
def text (u : Uuid) : String :=
  let digits := Text.hexDigits 32 u.bits.toNat
  let group (start length : Nat) := (digits.drop start).take length
  String.ofList (group 0 8 ++ '-' :: group 8 4 ++ '-' :: group 12 4 ++ '-' :: group 16 4 ++
    '-' :: group 20 12)

/-- The number of 32 hexadecimal digits. -/
def readDigits? (s : List Char) : Option Uuid :=
  if s.length = 32 then
    (s.foldlM (fun value c => (Text.hexValue? c).map (value * 16 + ·)) 0).map
      fun value => ⟨BitVec.ofNat 128 value⟩
  else none

/-- The number of five groups with hyphens between them. -/
def readHyphenated? (s : List Char) : Option Uuid :=
  if s.length = 36 ∧ [8, 13, 18, 23].all (fun i => s[i]? == some '-') then
    readDigits? (s.filter (· != '-'))
  else none

/-- The number that a text stands for: 32 digits, five groups, the latter also between braces or
behind `urn:uuid:`. -/
def read? (s : List Char) : Option Uuid :=
  match s.length with
  | 32 => readDigits? s
  | 36 => readHyphenated? s
  | 38 => if s.head? = some '\x7b' ∧ s.getLast? = some '\x7d' then readHyphenated? (s.drop 1).dropLast
          else none
  | 45 => if s.take 9 = "urn:uuid:".toList then readHyphenated? (s.drop 9) else none
  | _ => none

end Uuid

end Tablewright
