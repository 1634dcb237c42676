import OrdinalAdmission.Decimal.Double
import OrdinalAdmission.Text.Digit

/-!
# Reading JSON text

A reader takes its value from the front of a text and stops at the first problem it meets, so the
kind of fault depends on what stands furthest to the left. Three kinds are told apart: the text is
no JSON, it is JSON of another type or range than the one asked for, or it ends too early.
-/

namespace OrdinalAdmission.Json

inductive Fault where
  | malformed
  | mismatched
  | truncated
  deriving DecidableEq, Repr, Inhabited

abbrev Reader (α : Type) := StateT (List Char) (Except Fault) α

namespace Reader

def isSpace (c : Char) : Bool := c == ' ' || c == '\t' || c == '\n' || c == '\r'

/-- The next character after white space, which is dropped; the character itself stays. -/
def peek : Reader (Option Char) := do
  modify (·.dropWhile isSpace)
  return (← get).head?

def advance : Reader Unit := modify (·.drop 1)

def literally : List Char → Reader Unit
  | [] => pure ()
  | c :: word => do
    match ← get with
    | [] => throw .truncated
    | d :: rest => if d = c then set rest; literally word else throw .malformed

def takeDigits : Reader (List Char) := do
  let cs ← get
  set (cs.dropWhile Char.isDigit)
  return cs.takeWhile Char.isDigit

def someDigits : Reader (List Char) := do
  match ← get with
  | [] => throw .truncated
  | c :: _ => if c.isDigit then takeDigits else throw .malformed

/-- The digits in front of a point or an exponent; a zero stands alone. -/
def wholeDigits : Reader (List Char) := do
  match ← get with
  | '0' :: c :: _ => if c.isDigit then throw .malformed else advance; return ['0']
  | _ => someDigits

def fractionDigits : Reader (Option (List Char)) := do
  match ← get with
  | '.' :: rest => set rest; some <$> someDigits
  | _ => return none

def exponent : Reader (Option Int) := do
  match ← get with
  | c :: rest =>
    if c = 'e' ∨ c = 'E' then
      match rest with
      | '-' :: rest => set rest; return some (-(Decimal.value (← someDigits) : Int))
      | '+' :: rest => set rest; return some (Decimal.value (← someDigits))
      | _ => set rest; return some (Decimal.value (← someDigits))
    else return none
  | [] => return none

/-- A number; `none` stands for one that is no integer: a fraction, an exponent or a negative zero.
A number past the range of a double is malformed. -/
def number : Reader (Option Int) := do
  let negative := (← get).head? = some '-'
  if negative then advance
  let whole ← wholeDigits
  let fraction ← fractionDigits
  let power ← exponent
  let places := fraction.getD []
  if !Decimal.fitsDouble (Decimal.value (whole ++ places)) (power.getD 0 - places.length) then
    throw .malformed
  if fraction.isSome || power.isSome then return none
  else if !negative then return some (Decimal.value whole)
  else if Decimal.value whole = 0 then return none
  else return some (-(Decimal.value whole : Int))

/-- Four hexadecimal digits. The text ends too early when fewer than four bytes of it are left. -/
def hexUnit : Reader Nat := do
  let cs ← get
  let next := cs.take 4
  if (String.ofList next).utf8ByteSize < 4 then throw .truncated
  match Text.number? 16 next with
  | some unit => set (cs.drop 4); return unit
  | none => throw .malformed

def isLowSurrogate (n : Nat) : Bool := 0xDC00 ≤ n && n ≤ 0xDFFF

def isHighSurrogate (n : Nat) : Bool := 0xD800 ≤ n && n ≤ 0xDBFF

/-- The character of an escaped UTF-16 unit; a high surrogate needs its low one right behind it. -/
def unicodeEscape : Reader Char := do
  let unit ← hexUnit
  if isLowSurrogate unit then throw .malformed
  else if isHighSurrogate unit then
    literally ['\\', 'u']
    let low ← hexUnit
    if isLowSurrogate low then
      return Char.ofNat (0x10000 + (unit - 0xD800) * 0x400 + (low - 0xDC00))
    else throw .malformed
  else return Char.ofNat unit

def shortEscape? : Char → Option Char
  | '"' => some '"'
  | '\\' => some '\\'
  | '/' => some '/'
  | 'b' => some '\x08'
  | 'f' => some '\x0C'
  | 'n' => some '\n'
  | 'r' => some '\r'
  | 't' => some '\t'
  | _ => none

/-- The rest of a text after its opening quote. `fuel` bounds the number of characters in it. -/
def textRest : Nat → Reader (List Char)
  | 0 => throw .truncated
  | fuel + 1 => do
    match ← get with
    | [] => throw .truncated
    | '"' :: rest => set rest; return []
    | '\\' :: [] => throw .truncated
    | '\\' :: 'u' :: rest =>
      set rest
      let c ← unicodeEscape
      return c :: (← textRest fuel)
    | '\\' :: e :: rest =>
      match shortEscape? e with
      | some c => set rest; return c :: (← textRest fuel)
      | none => throw .malformed
    | c :: rest => if c.toNat < 0x20 then throw .malformed else set rest; return c :: (← textRest fuel)

def quoted : Reader String := do
  advance
  return String.ofList (← textRest ((← get).length + 1))

/-- A value of another type than the one asked for: its own faults come first. -/
def unexpected {α : Type} : Reader α := do
  match ← peek with
  | none => throw .truncated
  | some c =>
    if c = 'n' then literally "null".toList
    else if c = 't' then literally "true".toList
    else if c = 'f' then literally "false".toList
    else if c = '-' ∨ c.isDigit then let _ ← number
    else if c = '"' then let _ ← quoted
    else if c = '[' ∨ c = '\x7b' then pure ()
    else throw .malformed
    throw .mismatched

def text : Reader String := do
  if (← peek) = some '"' then quoted else unexpected

def bool : Reader Bool := do
  match ← peek with
  | some 't' => literally "true".toList; return true
  | some 'f' => literally "false".toList; return false
  | _ => unexpected

def int (low high : Int) : Reader Int := do
  match ← peek with
  | some c =>
    if c = '-' ∨ c.isDigit then
      match ← number with
      | some n => if low ≤ n ∧ n ≤ high then return n else throw .mismatched
      | none => throw .mismatched
    else unexpected
  | none => unexpected

def nullable {α : Type} (value : Reader α) : Reader (Option α) := do
  if (← peek) = some 'n' then literally "null".toList; return none
  else return some (← value)

def moreElements (first : Bool) : Reader Bool := do
  match ← peek with
  | none => throw .truncated
  | some ']' => return false
  | some ',' =>
    if first then return true
    else
      advance
      match ← peek with
      | none => throw .truncated
      | some ']' => throw .malformed
      | some _ => return true
  | some _ => if first then return true else throw .malformed

def elements {α : Type} (item : Reader α) : Nat → Bool → Reader (List α)
  | 0, _ => throw .truncated
  | fuel + 1, first => do
    if ← moreElements first then
      let head ← item
      return head :: (← elements item fuel false)
    else advance; return []

def list {α : Type} (item : Reader α) : Reader (List α) := do
  if (← peek) = some '[' then
    advance
    elements item ((← get).length + 1) true
  else unexpected

def nextKey (first : Bool) : Reader (Option String) := do
  match ← peek with
  | none => throw .truncated
  | some '\x7d' => return none
  | some c =>
    if !first then
      if c = ',' then advance else throw .malformed
    match ← peek with
    | none => throw .truncated
    | some '"' => some <$> quoted
    | some _ => throw .malformed

def colon : Reader Unit := do
  match ← peek with
  | none => throw .truncated
  | some ':' => advance
  | some _ => throw .malformed

def finished : Reader Unit := do
  if (← peek).isSome then throw .malformed

def decode {α : Type} (value : Reader α) (source : String) : Except Fault α :=
  (do let v ← value; finished; return v : Reader α).run' source.toList

end Reader

end OrdinalAdmission.Json
