import Tablewright.Text.Case
import Tablewright.Text.Visible

/-!
# Words of a name

A name is broken into words at `_`, `-` and the space, which are dropped, before a capital that
follows a small letter, between letters and digits, and before the last capital of an acronym that a
small letter follows. A separator at either end, or two in a row, leave an empty word. Snake case and
constant case join the words with underscores, so that the empty words show as separators again.
-/

namespace Tablewright.Text

/-- A letter of a name together with the marks that extend it. -/
abbrev Glyph := List Char

/-- The text as letters with their marks. -/
def glyphs : List Char → List Glyph
  | [] => []
  | c :: s =>
    match glyphs s with
    | (d :: marks) :: rest => if isExtender d then (c :: d :: marks) :: rest else [c] :: (d :: marks) :: rest
    | rest => [c] :: rest

/-- Whether the glyph is a capital: it has case and is its own upper case. -/
def Glyph.isUpper (g : Glyph) : Bool :=
  upperCase g != lowerCase g && g == upperCase g

/-- Whether the glyph is a small letter: it has case and is its own lower case. -/
def Glyph.isLower (g : Glyph) : Bool :=
  upperCase g != lowerCase g && g == lowerCase g

/-- Whether the glyph is an ASCII digit. -/
def Glyph.isDigit (g : Glyph) : Bool :=
  g.all Char.isDigit

/-- Whether the glyph is dropped between words. -/
def Glyph.isSeparator (g : Glyph) : Bool :=
  g == ['_'] || g == ['-'] || g == [' ']

/-- Whether a word ends between two neighbours, given the glyph behind them. -/
def breaksBetween (a b : Glyph) (behind : Option Glyph) : Bool :=
  (a.isLower && b.isUpper) || (a.isUpper && b.isUpper && behind.any Glyph.isLower) ||
    (a.isLower && b.isDigit) || (a.isUpper && b.isDigit) ||
    (a.isDigit && b.isLower) || (a.isDigit && b.isUpper)

/-- The words from here on; the first of them goes on with the glyphs already read. -/
def wordsOfGlyphs (word : List Char) : List Glyph → List (List Char)
  | [] => [word]
  | a :: rest =>
    if a.isSeparator then word :: wordsOfGlyphs [] rest
    else
      match rest with
      | [] => [word ++ a]
      | b :: behind =>
        if breaksBetween a b behind.head? then (word ++ a) :: wordsOfGlyphs [] (b :: behind)
        else wordsOfGlyphs (word ++ a) (b :: behind)

/-- The words of a name. -/
def words (name : List Char) : List (List Char) :=
  wordsOfGlyphs [] (glyphs name)

/-- The name in small letters with underscores between its words. -/
def snakeCase (name : String) : String :=
  String.ofList (['_'].intercalate ((words name.toList).map lowerCase))

/-- The name in capitals with underscores between its words. -/
def constantCase (name : String) : String :=
  String.ofList (['_'].intercalate ((words name.toList).map upperCase))

end Tablewright.Text
