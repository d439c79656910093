/-!
# Sets of characters given by ranges

A set of characters of a standard is a table: the ranges of its code points, first and last of
each, in ascending order.

* `inRanges`: membership in such a table.
-/

namespace RouteFlow.Text

/-- Whether a range among those numbered from `lo` up to `hi` holds `n`, found by halving. -/
def inRangesBetween (ranges : Array (Nat × Nat)) (n lo hi : Nat) : Bool :=
  if _ : lo < hi then
    let mid := (lo + hi) / 2
    match ranges[mid]? with
    | none => false
    | some (first, last) =>
      if n < first then inRangesBetween ranges n lo mid
      else if last < n then inRangesBetween ranges n (mid + 1) hi
      else true
  else false
termination_by hi - lo

/-- Whether one of the ascending ranges holds `n`. -/
def inRanges (ranges : Array (Nat × Nat)) (n : Nat) : Bool := inRangesBetween ranges n 0 ranges.size

end RouteFlow.Text
