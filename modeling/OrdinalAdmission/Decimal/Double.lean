import OrdinalAdmission.Decimal.Numeral

/-!
# Decimals in the range of a double

A number written as digits times a power of ten either rounds to a finite IEEE 754 double or lies
beyond all of them. Two formats ask which: a JSON number past the range is malformed, and a YAML
text past it does not read as a number.
-/

namespace OrdinalAdmission.Decimal

/-- The least magnitude that rounds to infinity: half a unit above the largest finite double. -/
def doubleLimit : Nat := Nat.pow 2 1024 - Nat.pow 2 970

/-- Whether `m * 10 ^ e` rounds to a finite double. The number of digits decides all but the values
with the size of the limit itself, so no large power is computed for them. -/
def fitsDouble (m : Nat) (e : Int) : Bool :=
  let top := ((digits m).length : Int) + e
  if m = 0 ∨ top ≤ 308 then true
  else if 309 < top then false
  else if 0 ≤ e then m * Nat.pow 10 e.toNat < doubleLimit
  else m < doubleLimit * Nat.pow 10 (-e).toNat

end OrdinalAdmission.Decimal
