import Tablewright.Dialect

/-!
# Statements as fragments

A statement is put together from words, names and parameters. Only names are quoted, and they are
quoted here alone, so that what a statement names and binds can be read off its fragments:
`names_append` and `parameters_append` say that both are collected from left to right.
-/

namespace Tablewright.Sql

/-- A piece of a statement. -/
inductive Fragment where
  /-- Keywords and punctuation, as they stand. -/
  | word (text : String)
  /-- A name to be quoted. -/
  | name (ident : String)
  /-- The placeholder of the parameter with a name and a position. -/
  | parameter (name : String) (position : Nat)
  deriving DecidableEq, Repr

/-- The text of a fragment in a dialect. -/
def Fragment.text (d : Dialect) : Fragment → String
  | word s => s
  | name ident => d.quote ident
  | parameter ident position => d.namedPlaceholder ident position

/-- A statement or a part of one. -/
abbrev Statement := List Fragment

/-- The parts with a word between each two. -/
def joined (between : String) (parts : List Statement) : Statement :=
  [Fragment.word between].intercalate parts

namespace Statement

/-- The text of a statement in a dialect. -/
def text (d : Dialect) (s : Statement) : String :=
  String.join (s.map (Fragment.text d))

/-- The names in the statement. -/
def names (s : Statement) : List String :=
  s.filterMap fun
    | .name ident => some ident
    | _ => none

/-- The names and positions of the parameters in the statement. -/
def parameters (s : Statement) : List (String × Nat) :=
  s.filterMap fun
    | .parameter name position => some (name, position)
    | _ => none

theorem names_append (s t : Statement) : names (s ++ t) = names s ++ names t :=
  List.filterMap_append

theorem parameters_append (s t : Statement) : parameters (s ++ t) = parameters s ++ parameters t :=
  List.filterMap_append

end Statement

end Tablewright.Sql
