import SelectQuery.Number.Binary64

/-!
# Shortest digits

The decimal with the fewest digits among those that are nearest to a given binary number, and of
several such the one closest to the number itself. For each number of digits only the two neighbours
of the number on that decimal grid can qualify.
-/

namespace SelectQuery

/-- The decimal digits · 10^shift. -/
structure Decimal where
  digits : Nat
  shift : Int
  deriving DecidableEq

namespace Decimal

/-- Removes zeros from the end of the digits, at most `fuel` of them. -/
private def dropZeros : Nat → Decimal → Decimal
  | 0, d => d
  | fuel + 1, d =>
    if d.digits ≠ 0 ∧ d.digits % 10 = 0 then dropZeros fuel ⟨d.digits / 10, d.shift + 1⟩ else d

/-- The same decimal without zeros at the end of its digits. -/
def trimmed (d : Decimal) : Decimal := dropZeros d.digits.log2 d

/-- The decimal digits, most significant first. -/
def text (d : Decimal) : List Char := Nat.toDigits 10 d.digits

/-- The exponent of the leading digit. -/
def leading (d : Decimal) : Int := d.shift + d.text.length - 1

end Decimal

namespace Binary64

/-- The numbers that round to a given one, in quarters of its last place over a common denominator:
those between `low` and `high`, with the ends where the mantissa is even. -/
private structure Reach where
  value : Nat
  low : Nat
  high : Nat
  den : Nat
  closed : Bool

private def reach (x : Binary64) : Reach :=
  let e := x.exponent - 2
  let up := power 2 e
  let below := if x.mantissa = leastFull ∧ leastExponent < x.exponent then 1 else 2
  { value := 4 * x.mantissa * up, low := (4 * x.mantissa - below) * up,
    high := (4 * x.mantissa + 2) * up,
    den := power 2 (-e), closed := x.mantissa % 2 = 0 }

/-- Whether digits · 10^shift rounds to the number. -/
private def Reach.holds (r : Reach) (d : Decimal) : Bool :=
  let n := d.digits * power 10 d.shift * r.den
  let unit := power 10 (-d.shift)
  if r.closed then r.low * unit ≤ n && n ≤ r.high * unit else r.low * unit < n && n < r.high * unit

/-- The better of the number's two neighbours on the grid 10^shift, if one of them rounds to it: the
nearer one, and of two equally near the one with an even last digit. -/
private def Reach.onGrid (r : Reach) (shift : Int) : Option Decimal :=
  let num := r.value * power 10 (-shift)
  let den := r.den * power 10 shift
  let q := num / den
  let below := (⟨q, shift⟩ : Decimal)
  let above := (⟨q + 1, shift⟩ : Decimal)
  let twice := 2 * (num % den)
  let preferBelow := twice < den || (twice = den && q % 2 = 0)
  match r.holds below, r.holds above with
  | true, true => some (if preferBelow then below else above)
  | true, false => some below
  | false, true => some above
  | false, false => none

/-- The first grid that has a hit, of the next `fuel` ones from 10^shift downwards. -/
private def Reach.search (r : Reach) : Nat → Int → Option Decimal
  | 0, _ => none
  | fuel + 1, shift => (r.onGrid shift).or (r.search fuel (shift - 1))

/-- The exponent of ten of the leading digit of `num / den`, or one more. -/
private def leadingBound (num den : Nat) : Int :=
  if den ≤ num then (Nat.toDigits 10 (num / den)).length - 1
  else 1 - ((Nat.toDigits 10 (den / num)).length : Int)

/-- The magnitude of a number in the fewest digits that read back as it. Eighteen grids are enough,
as seventeen digits always read back. -/
def shortest (x : Binary64) : Decimal :=
  if x.mantissa = 0 then ⟨0, 0⟩
  else
    let r := x.reach
    ((r.search 19 (leadingBound r.value r.den)).getD ⟨0, 0⟩).trimmed

end Binary64

end SelectQuery
