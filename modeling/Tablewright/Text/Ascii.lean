/-!
# ASCII letter case

Column names, dialect names and directory names are compared without regard to the case of the
letters `A` to `Z`; all other characters count as they are.
-/

namespace Tablewright.Text

/-- The text with `A` to `Z` in lower case. -/
def asciiLower (s : String) : String :=
  s.map Char.toLower

/-- Equality up to the case of ASCII letters. -/
def eqIgnoreAsciiCase (a b : String) : Bool :=
  a.toList.map Char.toLower == b.toList.map Char.toLower

theorem eqIgnoreAsciiCase_refl (a : String) : eqIgnoreAsciiCase a a = true := by
  simp [eqIgnoreAsciiCase]

/-- Whether a character is an ASCII letter, an ASCII digit or an underscore. -/
def isAsciiWord (c : Char) : Bool :=
  c.isAlphanum || c == '_'

end Tablewright.Text
