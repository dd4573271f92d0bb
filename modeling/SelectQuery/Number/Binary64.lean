/-!
# Binary64 numbers

The finite numbers of the 64-bit binary format as exact dyadic fractions, and the reading of a
decimal as the nearest of them. All arithmetic is on natural numbers, so nothing here rounds except
where it says so.
-/

namespace SelectQuery

/-- The number ±mantissa · 2^exponent in its one normal form: the mantissa has 53 bits, or fewer at
the least exponent, -1074. -/
structure Binary64 where
  negative : Bool
  mantissa : Nat
  exponent : Int
  deriving DecidableEq

namespace Binary64

def leastExponent : Int := -1074
def greatestExponent : Int := 971

/-- The least mantissa of 53 bits, and the first that has more. -/
def leastFull : Nat := Nat.pow 2 52
def beyondFull : Nat := Nat.pow 2 53

def zero (negative : Bool) : Binary64 := ⟨negative, 0, leastExponent⟩

/-- A quotient rounded to the nearest integer, a tie to the even one. -/
def roundDiv (num den : Nat) : Nat :=
  let q := num / den
  let r := num % den
  if 2 * r < den then q
  else if den < 2 * r then q + 1
  else q + q % 2

/-- The power of a base, or one where the exponent is negative: a fraction is scaled by base^e when
its numerator is multiplied by `power base e` and its denominator by `power base (-e)`. -/
def power (base : Nat) (e : Int) : Nat := Nat.pow base e.toNat

/-- `num / den` in units of 2^e, rounded. -/
private def mantissaAt (num den : Nat) (e : Int) : Nat :=
  roundDiv (num * power 2 (-e)) (den * power 2 e)

/-- The number nearest to `num / den`, or `none` where that would be beyond the greatest one. The
exponent tried first leaves 53 or 54 bits, so one step up is enough, and a carry out of the mantissa
is a power of two. -/
def ofRatio (negative : Bool) (num den : Nat) : Option Binary64 :=
  if num = 0 then some (zero negative)
  else
    let e := max leastExponent ((num.log2 : Int) - den.log2 - 53)
    let low := mantissaAt num den e
    let (m, e) := if low < beyondFull then (low, e) else (mantissaAt num den (e + 1), e + 1)
    let (m, e) := if m < beyondFull then (m, e) else (leastFull, e + 1)
    if greatestExponent < e then none else some ⟨negative, m, e⟩

/-- The number nearest to ±digits · 10^shift. Decimals far outside the range are settled by their
size alone. -/
def ofDecimal (negative : Bool) (digits : Nat) (shift : Int) : Option Binary64 :=
  if digits = 0 then some (zero negative)
  else
    let size := (Nat.toDigits 10 digits).length + shift
    if 320 < size then none
    else if size < -340 then some (zero negative)
    else ofRatio negative (digits * power 10 shift) (power 10 (-shift))

end Binary64

end SelectQuery
