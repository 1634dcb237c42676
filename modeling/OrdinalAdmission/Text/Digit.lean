/-!
# Digits of any base up to sixteen
-/

namespace OrdinalAdmission.Text

/-- The value of `c` as a digit; letters may have either case. -/
def digit? (base : Nat) (c : Char) : Option Nat :=
  let value :=
    if c.isDigit then c.toNat - '0'.toNat
    else if 'a' ≤ c ∧ c ≤ 'f' then c.toNat - 'a'.toNat + 10
    else if 'A' ≤ c ∧ c ≤ 'F' then c.toNat - 'A'.toNat + 10
    else base
  if value < base then some value else none

def number? (base : Nat) (cs : List Char) : Option Nat :=
  if cs.isEmpty then none
  else (cs.mapM (digit? base)).map fun digits => digits.foldl (base * · + ·) 0

/-- The character with the code point `n`, unless `n` is a surrogate or too large. -/
def char? (n : Nat) : Option Char :=
  if n.isValidChar then some (Char.ofNat n) else none

end OrdinalAdmission.Text
