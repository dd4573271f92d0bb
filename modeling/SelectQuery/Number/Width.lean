/-!
# Widths of integers

Which integers a word of some bits can hold, when it may be read with a sign or without one.
-/

namespace SelectQuery

/-- Whether an integer has so many bits, with a sign or without one. -/
def fitsBits (bits : Nat) (n : Int) : Bool :=
  -(Nat.pow 2 (bits - 1) : Int) ≤ n && n < (Nat.pow 2 bits : Int)

end SelectQuery
