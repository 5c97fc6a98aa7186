import Tablewright.Text.Ascii

/-!
# Plurals

The plural of a noun by its last letters, as the name of a table. Only ASCII letters count.
-/

namespace Tablewright.Text

/-- The vowels that keep a `y` behind them. -/
def vowels : List Char := "aeiou".toList

/-- The plural of a noun. -/
def plural (noun : String) : String :=
  match (asciiLower noun).toList.reverse with
  | 'y' :: before :: _ =>
    if vowels.contains before then noun ++ "s"
    else String.ofList noun.toList.dropLast ++ "ies"
  | 's' :: _ | 'x' :: _ | 'z' :: _ | 'h' :: 'c' :: _ | 'h' :: 's' :: _ => noun ++ "es"
  | _ => noun ++ "s"

end Tablewright.Text
