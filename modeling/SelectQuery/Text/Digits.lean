/-!
# Digits

The numbers that digits write in a base of at most sixteen. Letters of both cases are digits from
ten on.
-/

namespace SelectQuery.Text

def digitValue? (base : Nat) (c : Char) : Option Nat :=
  let n :=
    if '0' ≤ c ∧ c ≤ '9' then c.toNat - 48
    else if 'a' ≤ c ∧ c ≤ 'f' then c.toNat - 87
    else if 'A' ≤ c ∧ c ≤ 'F' then c.toNat - 55
    else base
  if n < base then some n else none

/-- The number that one or more digits write, the most significant first. -/
def digitsValue? (base : Nat) (cs : List Char) : Option Nat :=
  if cs.isEmpty then none
  else cs.foldl (fun n c => do return (← n) * base + (← digitValue? base c)) (some 0)

end SelectQuery.Text
