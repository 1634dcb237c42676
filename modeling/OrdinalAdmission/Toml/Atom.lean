import OrdinalAdmission.Decimal.Double
import OrdinalAdmission.Text.Cut
import OrdinalAdmission.Text.Digit
import OrdinalAdmission.Toml.Reader

/-!
# TOML numbers, truth values and dates

An atom is a run of letters, digits and a few marks; which runs are one is decided on the run as a
whole. Numbers may have single underscores between their digits. Only a date may be followed by a
blank and go on, with its time.
-/

namespace OrdinalAdmission.Toml

namespace Atom

/-- The digits of a run in which every underscore has a digit on either side. -/
def digits? (cs : List Char) : Option (List Char) :=
  let pieces := Text.pieces '_' cs
  if pieces.any List.isEmpty then none else some pieces.flatten

def whole? (cs : List Char) : Option (List Char) := do
  let digits ← digits? cs
  if Decimal.isNumeral digits && (digits.length == 1 || digits.head? != some '0') then some digits
  else none

def unsigned (cs : List Char) : Bool × List Char :=
  match cs with
  | '-' :: rest => (true, rest)
  | '+' :: rest => (false, rest)
  | _ => (false, cs)

def inBase (base : Nat) (cs : List Char) : Bool :=
  match (digits? cs).bind (Text.number? base) with
  | some n => n < Nat.pow 2 63
  | none => false

/-- A signed 64-bit integer; a base can only be named without a sign. -/
def isInteger (cs : List Char) : Bool :=
  match cs with
  | '0' :: 'x' :: rest => inBase 16 rest
  | '0' :: 'o' :: rest => inBase 8 rest
  | '0' :: 'b' :: rest => inBase 2 rest
  | _ =>
    let (negative, rest) := unsigned cs
    match whole? rest with
    | some digits =>
      let n := Decimal.value digits
      if negative then n ≤ Nat.pow 2 63 else n < Nat.pow 2 63
    | none => false

def exponent? (cs : List Char) : Option Int := do
  let (negative, rest) := unsigned cs
  let digits ← digits? rest
  if Decimal.isNumeral digits then
    some (if negative then -(Decimal.value digits : Int) else Decimal.value digits)
  else none

/-- A decimal with a fraction, an exponent or both; a positive one has to be finite. -/
def isFloat (cs : List Char) : Bool :=
  let (negative, rest) := unsigned cs
  if rest == "inf".toList || rest == "nan".toList then true
  else
    let isMark (c : Char) : Bool := c == 'e' || c == 'E'
    let mantissa := rest.takeWhile (!isMark ·)
    let power := rest.dropWhile (!isMark ·)
    let parts : Option (List Char × List Char) := match Text.cutFirst? '.' mantissa with
      | some (before, after) => do
        let places ← digits? after
        if Decimal.isNumeral places then some (← whole? before, places) else none
      | none => if power.isEmpty then none else (whole? mantissa).map (·, [])
    let scale : Option Int := match power with
      | [] => some 0
      | _ :: power => exponent? power
    match parts, scale with
    | some (digits, places), some e =>
      negative || Decimal.fitsDouble (Decimal.value (digits ++ places)) (e - places.length)
    | _, _ => false

-- ---------------------------------------------------------------------------
-- Dates and times
-- ---------------------------------------------------------------------------

def field (width : Nat) (cs : List Char) : Option (Nat × List Char) :=
  let digits := cs.take width
  if digits.length = width ∧ Decimal.isNumeral digits then
    some (Decimal.value digits, cs.drop width)
  else none

def mark (c : Char) (cs : List Char) : Option (List Char) :=
  match cs with
  | d :: rest => if d = c then some rest else none
  | [] => none

def daysIn (year month : Nat) : Nat :=
  if month = 2 then
    if year % 4 = 0 ∧ (year % 100 ≠ 0 ∨ year % 400 = 0) then 29 else 28
  else if month = 4 ∨ month = 6 ∨ month = 9 ∨ month = 11 then 30
  else 31

def afterDate (cs : List Char) : Option (List Char) := do
  let (year, rest) ← field 4 cs
  let (month, rest) ← field 2 (← mark '-' rest)
  let (day, rest) ← field 2 (← mark '-' rest)
  if 1 ≤ month ∧ month ≤ 12 ∧ 1 ≤ day ∧ day ≤ daysIn year month then some rest else none

def afterTime (cs : List Char) : Option (List Char) := do
  let (hour, rest) ← field 2 cs
  let (minute, rest) ← field 2 (← mark ':' rest)
  let (second, rest) ← field 2 (← mark ':' rest)
  if hour ≤ 23 ∧ minute ≤ 59 ∧ second ≤ 60 then
    match rest with
    | '.' :: places =>
      if places.head?.any Char.isDigit then some (places.dropWhile Char.isDigit) else none
    | _ => some rest
  else none

def isOffset (cs : List Char) : Bool :=
  match cs with
  | ['Z'] | ['z'] => true
  | sign :: rest =>
    (sign == '+' || sign == '-') &&
      match (do
        let (hour, rest) ← field 2 rest
        let (minute, rest) ← field 2 (← mark ':' rest)
        return hour ≤ 23 && minute ≤ 59 && rest.isEmpty : Option Bool) with
      | some ok => ok
      | none => false
  | [] => false

/-- A time of day, with an offset from universal time if a date goes before it. -/
def isTime (dated : Bool) (cs : List Char) : Bool :=
  match afterTime cs with
  | some [] => true
  | some rest => dated && isOffset rest
  | none => false

def isDateTime (cs : List Char) : Bool :=
  match afterDate cs with
  | some [] => true
  | some (c :: time) => (c == 'T' || c == 't') && isTime true time
  | none => isTime false cs

def isAtom (cs : List Char) : Bool :=
  cs == "true".toList || cs == "false".toList || isInteger cs || isFloat cs || isDateTime cs

def isAtomChar (c : Char) : Bool :=
  c.isAlphanum || c == '_' || c == '+' || c == '-' || c == '.' || c == ':'

end Atom

/-- An atom; behind a date, a blank and a time belong to it. -/
def Reader.atom : Reader Unit := do
  let cs ← get
  let run := cs.takeWhile Atom.isAtomChar
  let rest := cs.dropWhile Atom.isAtomChar
  if !Atom.isAtom run then failure
  set rest
  if Atom.afterDate run = some [] then
    match rest with
    | ' ' :: more =>
      let time := more.takeWhile Atom.isAtomChar
      if time.head?.any Char.isDigit then
        if Atom.isTime true time then set (more.dropWhile Atom.isAtomChar) else failure
    | _ => pure ()

end OrdinalAdmission.Toml
