import Tablewright.Dialect

/-!
# Groups of placeholders

The values of a statement for many rows: one group of placeholders a row, numbered through.
`valueGroups` says what they are; `ValuesShape.groups` writes them one placeholder after the other.
The groups of a shape can be kept in a bounded cache; `ValuesCache.lookUp` answers the same with and
without it.
-/

namespace Tablewright.Sql

/-- The placeholders of one row, the first of them with a number. -/
def valueGroup (d : Dialect) (width start : Nat) : String :=
  "(" ++ String.intercalate ", " ((List.range width).map fun i => d.placeholder (start + i)) ++ ")"

/-- The groups of `rows` rows of `width` placeholders, numbered from `start`. -/
def valueGroups (d : Dialect) (rows width start : Nat) : String :=
  String.intercalate ", " ((List.range rows).map fun i => valueGroup d width (start + i * width))

/-- What the groups depend on. -/
structure ValuesShape where
  dialect : Dialect
  rows : Nat
  width : Nat
  start : Nat
  deriving DecidableEq, Repr

/-- Groups in the making: what is written of them, and the number of the next placeholder. -/
structure Numbering where
  text : String
  next : Nat
  deriving Repr

namespace Numbering

/-- One more placeholder of a group, behind a comma unless it is the first. -/
def placeholder (d : Dialect) (n : Numbering) (column : Nat) : Numbering where
  text := n.text ++ (if column = 0 then "" else ", ") ++ d.placeholder n.next
  next := n.next + 1

/-- One more group of `width` placeholders, behind a comma unless it is the first. -/
def group (d : Dialect) (width : Nat) (n : Numbering) (row : Nat) : Numbering :=
  let opened := { n with text := n.text ++ (if row = 0 then "" else ", ") ++ "(" }
  let filled := (List.range width).foldl (placeholder d) opened
  { filled with text := filled.text ++ ")" }

end Numbering

/-- The groups of a shape; the numbers run on from one group to the next. -/
def ValuesShape.groups (s : ValuesShape) : String :=
  ((List.range s.rows).foldl (Numbering.group s.dialect s.width) ⟨"", s.start⟩).text

/-- Groups of shapes already asked for, at most `capacity` of them. -/
structure ValuesCache where
  capacity : Nat
  entries : List (ValuesShape × String)
  deriving Repr

namespace ValuesCache

/-- The number of shapes that the shared cache keeps. -/
def sharedCapacity : Nat := 256

/-- A cache without entries. -/
def empty (capacity : Nat) : ValuesCache := ⟨capacity, []⟩

/-- The groups of a shape, and the cache afterwards. A full cache stays as it is. -/
def lookUp (c : ValuesCache) (s : ValuesShape) : String × ValuesCache :=
  match c.entries.lookup s with
  | some groups => (groups, c)
  | none =>
    if c.entries.length < c.capacity then
      (s.groups, { c with entries := c.entries ++ [(s, s.groups)] })
    else (s.groups, c)

/-- The groups of many shapes, asked for one after the other. -/
def lookUpAll (c : ValuesCache) : List ValuesShape → List String × ValuesCache
  | [] => ([], c)
  | s :: rest =>
    let (groups, c) := c.lookUp s
    let (others, c) := c.lookUpAll rest
    (groups :: others, c)

end ValuesCache

end Tablewright.Sql
