import OrdinalAdmission.Decimal.Numeral
import OrdinalAdmission.Text.Cut

/-!
# JSON pointers

A pointer leads from a document to one of its values by member keys and list positions. Its text
starts every step with a slash; a tilde and a slash inside a step are escaped. `parse?_render` says
that no pointer is lost in its text.
-/

namespace OrdinalAdmission

/-- The steps from the outside in: keys of objects and decimal positions in lists. -/
abbrev Pointer := List String

namespace Pointer

def escape : List Char → List Char
  | [] => []
  | '~' :: rest => '~' :: '0' :: escape rest
  | '/' :: rest => '~' :: '1' :: escape rest
  | c :: rest => c :: escape rest

/-- Refuses a tilde that escapes nothing. -/
def unescape? : List Char → Option (List Char)
  | [] => some []
  | '~' :: '0' :: rest => (unescape? rest).map ('~' :: ·)
  | '~' :: '1' :: rest => (unescape? rest).map ('/' :: ·)
  | c :: rest => if c = '~' then none else (unescape? rest).map (c :: ·)

def renderChars (pointer : Pointer) : List Char :=
  pointer.flatMap fun step => '/' :: escape step.toList

def render (pointer : Pointer) : String := String.ofList pointer.renderChars

def position (i : Nat) : String := Decimal.text i

/-- The position a step stands for: decimal, without needless zeros. -/
def position? (step : String) : Option Nat :=
  let cs := step.toList
  if Decimal.isNumeral cs && Decimal.digits (Decimal.value cs) == cs then some (Decimal.value cs)
  else none

def parse? (text : String) : Option Pointer :=
  match text.toList with
  | [] => some []
  | '/' :: rest => (Text.pieces '/' rest).mapM fun step => (unescape? step).map String.ofList
  | _ => none

theorem unescape?_escape (cs : List Char) : unescape? (escape cs) = some cs := by
  fun_induction escape cs with
  | case1 => rfl
  | case2 rest ih => simp [unescape?, ih]
  | case3 rest ih => simp [unescape?, ih]
  | case4 c rest hne _ ih =>
    rw [unescape?]
    · simpa [ih] using hne
    · intro r h; simp_all
    · intro r h; simp_all

theorem position?_position (i : Nat) : position? (position i) = some i := by
  simp [position?, position, Decimal.text, Decimal.isNumeral_digits]

end Pointer

end OrdinalAdmission
