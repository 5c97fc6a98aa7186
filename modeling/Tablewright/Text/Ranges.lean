/-!
# Character classes as tables of ranges

A class of characters is a table of disjoint ranges of code points in ascending order. Membership
is found by bisection.
-/

namespace Tablewright.Text

/-- Whether `n` lies in one of the ranges with an index from `low` up to `high`, by bisection in
at most `fuel` steps. -/
def inRangesFrom (table : Array (Nat × Nat)) (n low high : Nat) : Nat → Bool
  | 0 => false
  | fuel + 1 =>
    if low < high then
      let middle := (low + high) / 2
      match table[middle]? with
      | none => false
      | some (first, last) =>
        if n < first then inRangesFrom table n low middle fuel
        else if last < n then inRangesFrom table n (middle + 1) high fuel
        else true
    else false

/-- Whether `n` lies in one of the ranges of the table. -/
def inRanges (table : Array (Nat × Nat)) (n : Nat) : Bool :=
  inRangesFrom table n 0 table.size (table.size + 1)

end Tablewright.Text
