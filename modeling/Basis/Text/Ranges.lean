/-!
# Sorted tables of code points

A character class of Unicode is kept as an array of ranges of code points,
sorted and disjoint, each given by its first and last code point. `inRanges`
looks a code point up by halving the part of the table still in question.
-/

namespace Basis.Text

/-- Whether a code point lies in one of the sorted ranges `rs` between positions
`lo` and `hi`, by halving the interval. -/
def inRanges (rs : Array (Nat × Nat)) (c : Nat) (lo hi : Nat) : Bool :=
  if _h : lo < hi then
    let mid := (lo + hi) / 2
    let (a, b) := rs.getD mid (0, 0)
    if c < a then inRanges rs c lo mid
    else if b < c then inRanges rs c (mid + 1) hi
    else true
  else false
termination_by hi - lo

/-- Whether a code point lies in one of the sorted ranges of a whole table. -/
def inTable (rs : Array (Nat × Nat)) (c : Nat) : Bool :=
  inRanges rs c 0 rs.size

end Basis.Text
