/-!
# Positions

A place in a source text by line and column, both counted from 1. A column is a character.
-/

namespace Tablewright.Source

/-- A line and a column. -/
structure Position where
  line : Nat
  column : Nat
  deriving DecidableEq, Repr, Inhabited

namespace Position

/-- The beginning of a text. -/
def start : Position := ⟨1, 1⟩

/-- The position behind a character. -/
def after (p : Position) (c : Char) : Position :=
  if c == '\n' then ⟨p.line + 1, 1⟩ else ⟨p.line, p.column + 1⟩

/-- The position behind a text. -/
def afterAll (p : Position) (s : List Char) : Position :=
  s.foldl after p

theorem afterAll_append (p : Position) (s t : List Char) :
    p.afterAll (s ++ t) = (p.afterAll s).afterAll t :=
  List.foldl_append

end Position

end Tablewright.Source
