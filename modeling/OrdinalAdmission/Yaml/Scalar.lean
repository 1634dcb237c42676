import OrdinalAdmission.Decimal.Double
import OrdinalAdmission.Text.Digit

/-!
# What a plain YAML scalar reads as

A plain scalar is a null, a truth value, an integer, a float or else a text. Readers ask for the
type they need; the printer asks whether a text would be taken for something else and quotes it.
-/

namespace OrdinalAdmission.Yaml

def isNullText (text : String) : Bool :=
  text == "null" || text == "Null" || text == "NULL" || text == "~"

def bool? (text : String) : Option Bool :=
  if text == "true" || text == "True" || text == "TRUE" then some true
  else if text == "false" || text == "False" || text == "FALSE" then some false
  else none

/-- The magnitude of an integer without its sign: `0x`, `0o` and `0b` name a base. -/
def unsigned? (cs : List Char) : Option Nat :=
  match cs with
  | '0' :: 'x' :: rest => Text.number? 16 rest
  | '0' :: 'o' :: rest => Text.number? 8 rest
  | '0' :: 'b' :: rest => Text.number? 2 rest
  | '0' :: _ :: _ => none
  | _ => Text.number? 10 cs

/-- The integer a plain scalar reads as. A decimal has no leading zeros. -/
def int? (text : String) : Option Int :=
  match text.toList with
  | '+' :: rest => (unsigned? rest).map Int.ofNat
  | '-' :: rest => (unsigned? rest).map fun n => -(n : Int)
  | cs => (unsigned? cs).map Int.ofNat

/-- Digits with a needless zero in front: no number, but apt to be taken for one. -/
def isPaddedNumber (text : String) : Bool :=
  let cs := match text.toList with
    | '+' :: rest | '-' :: rest => rest
    | cs => cs
  1 < cs.length && cs.head? == some '0' && cs.all Char.isDigit

/-- Digits, a point and more digits, not all missing, and an exponent: whether the number that
`cs` stands for is a finite double. -/
def isFiniteDecimal (cs : List Char) : Bool :=
  let whole := cs.takeWhile Char.isDigit
  let rest := cs.dropWhile Char.isDigit
  let (places, rest) := match rest with
    | '.' :: rest => (rest.takeWhile Char.isDigit, rest.dropWhile Char.isDigit)
    | rest => ([], rest)
  let scaled (e : Int) : Bool :=
    Decimal.fitsDouble (Decimal.value (whole ++ places)) (e - places.length)
  if whole.isEmpty && places.isEmpty then false
  else match rest with
    | [] => scaled 0
    | c :: rest =>
      if c != 'e' && c != 'E' then false
      else match rest with
        | '-' :: rest => Decimal.isNumeral rest && scaled (-(Decimal.value rest : Int))
        | '+' :: rest => Decimal.isNumeral rest && scaled (Decimal.value rest)
        | rest => Decimal.isNumeral rest && scaled (Decimal.value rest)

def isInfinity (text : String) : Bool :=
  text == ".inf" || text == ".Inf" || text == ".INF"

def isNotANumber (text : String) : Bool :=
  text == ".nan" || text == ".NaN" || text == ".NAN"

def isFloat (text : String) : Bool :=
  isNotANumber text ||
    match text.toList with
    | '+' :: rest => isInfinity (String.ofList rest) || isFiniteDecimal rest
    | '-' :: rest => isInfinity (String.ofList rest) || isFiniteDecimal rest
    | cs => isInfinity text || isFiniteDecimal cs

/-- The integers a scalar is recognised as: up to 128 bits. -/
def isWideInt (n : Int) : Bool :=
  -Int.pow 2 127 ≤ n && n < Int.pow 2 128

/-- Whether `text`, written plain, would read as something other than a text. -/
def isAmbiguous (text : String) : Bool :=
  text.isEmpty || isNullText text || (bool? text).isSome || (int? text).any isWideInt ||
    isPaddedNumber text || isFloat text

end OrdinalAdmission.Yaml
