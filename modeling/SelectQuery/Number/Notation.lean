import SelectQuery.Number.Shortest

/-!
# Notations for decimals

How digits become text: positional between two exponents, with an exponent outside of them. A
positional text always has a point, a text with an exponent always a signed exponent, so either can
be told from an integer.
-/

namespace SelectQuery

/-- The exponents of the leading digit from `least` to `greatest` are written positionally; a bound
that is absent excludes nothing. -/
structure Notation where
  least : Option Int
  greatest : Option Int

namespace Notation

/-- Positional whatever the size. -/
def plain : Notation := ⟨none, none⟩

/-- Positional from 10^-5 up to below 10^16. -/
def scientific : Notation := ⟨some (-5), some 15⟩

def isPositional (n : Notation) (exponent : Int) : Bool :=
  n.least.all (· ≤ exponent) && n.greatest.all (exponent ≤ ·)

/-- The digits with the point where it belongs, and a zero on a side that would be empty. -/
def positional (d : Decimal) : List Char :=
  let before := d.text.length + d.shift
  if 0 ≤ d.shift then d.text ++ List.replicate d.shift.toNat '0' ++ ['.', '0']
  else if 0 < before then d.text.take before.toNat ++ '.' :: d.text.drop before.toNat
  else ['0', '.'] ++ List.replicate (-before).toNat '0' ++ d.text

/-- One digit, the point and the others if there are any, and the exponent with its sign. -/
def withExponent (d : Decimal) : List Char :=
  let rest := d.text.drop 1
  let sign := if 0 ≤ d.leading then '+' else '-'
  d.text.take 1 ++ (if rest.isEmpty then [] else '.' :: rest) ++
    'e' :: sign :: Nat.toDigits 10 d.leading.natAbs

/-- A number in the fewest digits that read back as it. -/
def write (n : Notation) (x : Binary64) : List Char :=
  let d := x.shortest
  (if x.negative then ['-'] else []) ++
    (if n.isPositional d.leading then positional d else withExponent d)

end Notation

end SelectQuery
