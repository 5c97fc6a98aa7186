import Tablewright.Text.Numeral
import Tablewright.Text.Visible

/-!
# Quoted text

How a text is written between double quotes so that it reads back as itself: quotes and
backslashes take a backslash, the usual control characters have letters, and whatever could not be
seen on its own is written by its code point.
-/

namespace Tablewright.Text

/-- How a quoted text writes the null character: with `guardsOctal` it is `\x00` in front of an octal
digit, which `\0` would draw into itself. -/
structure QuoteStyle where
  guardsOctal : Bool

/-- Literals of generated source. -/
def QuoteStyle.source : QuoteStyle := ⟨true⟩

/-- Texts shown in messages. -/
def QuoteStyle.shown : QuoteStyle := ⟨false⟩

/-- A character by its code point. -/
def escapeCodePoint (c : Char) : List Char :=
  "\\u\x7b".toList ++ (hexNumeral c.toNat).toList ++ ['\x7d']

/-- The spelling of one character between double quotes. -/
def QuoteStyle.spell (style : QuoteStyle) (c : Char) (rest : List Char) : List Char :=
  if c == '\x00' then
    if style.guardsOctal && rest.head?.any (fun d => '0' ≤ d ∧ d ≤ '7') then "\\x00".toList
    else "\\0".toList
  else if c == '\t' then "\\t".toList
  else if c == '\r' then "\\r".toList
  else if c == '\n' then "\\n".toList
  else if c == '\\' then "\\\\".toList
  else if c == '"' then "\\\"".toList
  else if isExtender c then escapeCodePoint c
  else if isVisible c then [c]
  else escapeCodePoint c

/-- The text between the quotes. -/
def QuoteStyle.body (style : QuoteStyle) : List Char → List Char
  | [] => []
  | c :: rest => style.spell c rest ++ style.body rest

/-- The text with its quotes. -/
def QuoteStyle.quote (style : QuoteStyle) (s : String) : String :=
  String.ofList ('"' :: style.body s.toList ++ ['"'])

end Tablewright.Text
