/-!
# Sets of characters given by ranges

A property of a standard is carried as the ascending, disjoint ranges of code points that have
it. Membership is a binary search, so that a table of many hundred ranges costs about ten
comparisons a character.
-/

namespace RemoteDebug.Text

/-- Ascending, disjoint ranges of code points, both ends included. -/
structure RangeTable where
  ranges : Array (Nat × Nat)

namespace RangeTable

/-- Searches the ranges numbered from `low` on and below `high` for one that holds `code`. -/
def searchBetween (table : RangeTable) (code low high : Nat) : Bool :=
  if low < high then
    let middle := (low + high) / 2
    match table.ranges[middle]? with
    | none => false
    | some (first, last) =>
      if code < first then table.searchBetween code low middle
      else if last < code then table.searchBetween code (middle + 1) high
      else true
  else false
termination_by high - low
decreasing_by all_goals omega

/-- Whether the table holds a character. -/
def contains (table : RangeTable) (c : Char) : Bool :=
  table.searchBetween c.toNat 0 table.ranges.size

/-- Whether every range of a list starts behind `bound`, is not empty, and ends before the next
one starts. -/
def ascendingFrom (bound : Nat) : List (Nat × Nat) → Bool
  | [] => true
  | (first, last) :: rest => bound < first && first ≤ last && ascendingFrom last rest

end RangeTable

end RemoteDebug.Text
