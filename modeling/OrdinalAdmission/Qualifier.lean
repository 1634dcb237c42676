import OrdinalAdmission.Text.Cut
import OrdinalAdmission.Decimal.Numeral

/-!
# Ordinal qualifiers

A qualifier narrows an annotation to some of a StatefulSet's ordinals. The empty text stands for
every ordinal, `3` for one, `1-5` for a range, `3-` and `-5` for what lies at or beyond a bound;
any other text stands for none. Bounds are 32-bit: an upper bound past them still lets every
ordinal in, while no ordinal reaches a lower bound or an exact value past them.
-/

namespace OrdinalAdmission

inductive Qualifier where
  | all
  | range (min max : UInt32)
  | exact (n : UInt32)
  | atLeast (min : UInt32)
  | atMost (max : UInt32)
  | never
  deriving DecidableEq, Repr, Inhabited

namespace Qualifier

def top : UInt32 := 4294967295

def upperBound (numeral : List Char) : UInt32 :=
  (Decimal.toUInt32? numeral).getD top

/-- A text with a hyphen, given as what stands before and after the first one. -/
def ofBounds (low high : List Char) : Qualifier :=
  if high.isEmpty then
    if Decimal.isNumeral low then (Decimal.toUInt32? low).elim never atLeast else never
  else if !Decimal.isNumeral high then never
  else if low.isEmpty then atMost (upperBound high)
  else if Decimal.isNumeral low then
    (Decimal.toUInt32? low).elim never fun min => range min (upperBound high)
  else never

def ofChars (text : List Char) : Qualifier :=
  match Text.cutFirst? '-' text with
  | some (low, high) => ofBounds low high
  | none =>
    if text.isEmpty then all
    else if Decimal.isNumeral text then (Decimal.toUInt32? text).elim never exact
    else never

def parse (text : String) : Qualifier := ofChars text.toList

/-- The canonical text: `parse` reads it back, except that `all` is shown as a star. -/
def render : Qualifier → String
  | all => "*"
  | range min max => Decimal.text min.toNat ++ "-" ++ Decimal.text max.toNat
  | exact n => Decimal.text n.toNat
  | atLeast min => Decimal.text min.toNat ++ "-"
  | atMost max => "-" ++ Decimal.text max.toNat
  | never => "<none>"

/-- Whether the qualifier lets `ordinal` in. A range whose bounds are crossed lets nothing in. -/
def admits : Qualifier → UInt32 → Bool
  | all, _ => true
  | range min max, ordinal => min ≤ ordinal && ordinal ≤ max
  | exact n, ordinal => ordinal == n
  | atLeast min, ordinal => min ≤ ordinal
  | atMost max, ordinal => ordinal ≤ max
  | never, _ => false

end Qualifier

def qualifies (qualifier : String) (ordinal : UInt32) : Bool :=
  (Qualifier.parse qualifier).admits ordinal

end OrdinalAdmission
