import Tablewright.Dialect

/-!
# Reading quoted names

The names that stand in quotes in a text of a dialect. `quotedNames_quote` says that a name written by
`Dialect.quote` is read back, whatever characters it holds, unless another closing quote follows at
once.
-/

namespace Tablewright.Sql

/-- A quoted name behind its opening quote, and the text behind its closing quote. A doubled closing
quote stands for one in the name; a name that is never closed goes on to the end. -/
def takeQuoted (close : Char) : List Char → List Char × List Char
  | [] => ([], [])
  | c :: s =>
    if c = close then
      match s with
      | [] => ([], [])
      | c' :: s' =>
        if c' = close then
          let (name, rest) := takeQuoted close s'
          (close :: name, rest)
        else ([], s)
    else
      let (name, rest) := takeQuoted close s
      (c :: name, rest)

theorem length_takeQuoted_le (close : Char) (s : List Char) :
    (takeQuoted close s).2.length ≤ s.length := by
  fun_induction takeQuoted close s with
  | case1 => simp
  | case2 => simp
  | case3 s' _ _ h ih =>
    simp only [h] at ih
    simp only [List.length_cons]
    omega
  | case4 => simp
  | case5 c s _ _ _ h ih =>
    simp only [h] at ih
    simp only [List.length_cons]
    omega

/-- A quoted name ends at its closing quote. -/
theorem takeQuoted_quoteBody (close : Char) (name rest : List Char) (h : rest.head? ≠ some close) :
    takeQuoted close (Dialect.quoteBody close name ++ close :: rest) = (name, rest) := by
  induction name with
  | nil =>
    cases rest with
    | nil => simp [Dialect.quoteBody, takeQuoted]
    | cons c rest =>
      have hc : c ≠ close := by simpa using h
      simp [Dialect.quoteBody, takeQuoted, hc]
  | cons c name ih =>
    by_cases hc : c = close
    · subst hc
      simp [Dialect.quoteBody, takeQuoted, ih]
    · rw [Dialect.quoteBody, if_neg hc, List.cons_append, takeQuoted.eq_def]
      simp [hc, ih]

/-- The names in quotes, from left to right. -/
def quotedNames (d : Dialect) : List Char → List (List Char)
  | [] => []
  | c :: s =>
    if c = d.openQuote then
      (takeQuoted d.closeQuote s).1 :: quotedNames d (takeQuoted d.closeQuote s).2
    else quotedNames d s
termination_by s => s.length
decreasing_by
  · have := length_takeQuoted_le d.closeQuote s
    simp only [List.length_cons]
    omega
  · simp

theorem quotedNames_quote (d : Dialect) (name : String) (rest : List Char)
    (h : rest.head? ≠ some d.closeQuote) :
    quotedNames d ((d.quote name).toList ++ rest) = name.toList :: quotedNames d rest := by
  simp [Dialect.quote, quotedNames, takeQuoted_quoteBody _ _ _ h]

end Tablewright.Sql
