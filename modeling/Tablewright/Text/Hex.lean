import Tablewright.Text.Numeral

/-!
# Bytes as hexadecimal digits

Two digits a byte. Reading takes letters of either case, writing gives lower case.
-/

namespace Tablewright.Text

/-- The bytes that hexadecimal digits stand for. -/
def hexBytes? : List Char → Option (List UInt8)
  | [] => some []
  | [_] => none
  | high :: low :: rest => do
    let high ← hexValue? high
    let low ← hexValue? low
    return UInt8.ofNat (high * 16 + low) :: (← hexBytes? rest)

/-- The hexadecimal digits of bytes. -/
def hexOfBytes (bytes : List UInt8) : List Char :=
  bytes.flatMap fun b => hexDigits 2 b.toNat

/-- The text that bytes stand for. -/
def ofUtf8? (bytes : List UInt8) : Option String :=
  String.fromUTF8? ⟨bytes.toArray⟩

end Tablewright.Text
