/-!
# Ranges of code points

A property of characters that a standard gives by a table is a sorted array of ranges of code
points that do not overlap. `CodeRange.search` asks such an array whether it holds a code point,
in a number of steps logarithmic in its size.
-/

namespace DocFilter

/-- The code points from `first` to `last`, both included. -/
structure CodeRange where
  first : Nat
  last : Nat
  deriving DecidableEq, Repr, Inhabited

namespace CodeRange

/-- Whether code point `n` lies in the range. -/
def contains (r : CodeRange) (n : Nat) : Bool :=
  r.first ≤ n && n ≤ r.last

/-- Binary search for `n` among the ranges at positions `lo` to `hi - 1`. -/
def searchBetween (ranges : Array CodeRange) (n lo hi : Nat) : Bool :=
  if lo < hi then
    let mid := (lo + hi) / 2
    match ranges[mid]? with
    | none => false
    | some r =>
      if n < r.first then searchBetween ranges n lo mid
      else if r.last < n then searchBetween ranges n (mid + 1) hi
      else true
  else false
termination_by hi - lo

/-- Whether one of the sorted `ranges` holds code point `n`. -/
def search (ranges : Array CodeRange) (n : Nat) : Bool :=
  searchBetween ranges n 0 ranges.size

end CodeRange

end DocFilter
