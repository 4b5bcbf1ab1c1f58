/-!
# Sets of code points

A character class of the Unicode standard is carried as a list of closed ranges of code
points, ascending and apart. `CodeRanges.includes` looks a code point up, and
`CodeRanges.wellFormed` and `CodeRanges.count` are the checks that a table passes. All the
tables of this library state version 14 of the standard.
-/

set_option autoImplicit false
set_option relaxedAutoImplicit false

namespace LicenseHeaders.Text

/-- Closed ranges of code points, ascending and apart. -/
abbrev CodeRanges := List (Nat × Nat)

namespace CodeRanges

/-- Whether a code point lies in one of the ranges. Since the ranges ascend, the scan stops at
the first one that starts beyond the code point. -/
def includes : CodeRanges → Nat → Bool
  | [], _ => false
  | (first, last) :: rest, code =>
    if code < first then false else decide (code ≤ last) || includes rest code

/-- Every range is non-empty, and a gap separates it from the next. -/
def wellFormed : CodeRanges → Bool
  | [] => true
  | [(first, last)] => decide (first ≤ last)
  | (first, last) :: (next, stop) :: rest =>
    decide (first ≤ last) && decide (last + 1 < next) && wellFormed ((next, stop) :: rest)

/-- How many code points the ranges hold. -/
def count (ranges : CodeRanges) : Nat :=
  (ranges.map fun range ↦ range.2 + 1 - range.1).foldr (· + ·) 0

end CodeRanges

end LicenseHeaders.Text
