/-!
# Character ranges

A set of characters as closed ranges of code points in increasing order, the form in which the
Unicode properties used here are written down.
-/

namespace SelectQuery.Text

/-- Whether a code point lies in one of the ranges. They are in increasing order, so the search ends
at the first range that starts beyond it. -/
def inRanges (n : Nat) : List (Nat × Nat) → Bool
  | [] => false
  | (lo, hi) :: rest => lo ≤ n && (n ≤ hi || inRanges n rest)

end SelectQuery.Text
