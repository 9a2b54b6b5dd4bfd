/-!
# Ranges of code points

Character classes of the character standard are sorted tables of closed ranges, searched by halving.
-/

namespace SqlMapper.Text

/-- Searches the ranges at positions from `lo` up to `hi`, halving the stretch each time. -/
def inRangesBetween (ranges : Array (Nat × Nat)) (n : Nat) : (fuel lo hi : Nat) → Bool
  | 0, _, _ => false
  | fuel + 1, lo, hi =>
    if hi ≤ lo then false
    else
      let mid := (lo + hi) / 2
      match ranges[mid]? with
      | none => false
      | some (first, last) =>
        if n < first then inRangesBetween ranges n fuel lo mid
        else if last < n then inRangesBetween ranges n fuel (mid + 1) hi
        else true

/-- A number lies in one of the ranges of a sorted table. -/
def inRanges (ranges : Array (Nat × Nat)) (n : Nat) : Bool :=
  inRangesBetween ranges n ranges.size 0 ranges.size

end SqlMapper.Text
