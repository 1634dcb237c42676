import OrdinalAdmission.Decimal.Numeral
import OrdinalAdmission.Json.Value

/-!
# Writing JSON text

Every member and item stands on a line of its own, two blanks further in than what holds it; an
empty list or object is written in one piece. Only quotes, backslashes and control characters are
escaped.
-/

namespace OrdinalAdmission.Json

def hexDigit (n : Nat) : Char :=
  if n < 10 then Char.ofNat ('0'.toNat + n) else Char.ofNat ('a'.toNat + (n - 10))

def escapeChar (c : Char) : List Char :=
  if c = '"' then ['\\', '"']
  else if c = '\\' then ['\\', '\\']
  else if c = '\x08' then ['\\', 'b']
  else if c = '\x0C' then ['\\', 'f']
  else if c = '\n' then ['\\', 'n']
  else if c = '\r' then ['\\', 'r']
  else if c = '\t' then ['\\', 't']
  else if c.toNat < 0x20 then
    ['\\', 'u', '0', '0', hexDigit (c.toNat / 16), hexDigit (c.toNat % 16)]
  else [c]

def quote (text : String) : String :=
  "\"" ++ String.ofList (text.toList.flatMap escapeChar) ++ "\""

def Scalar.print : Scalar → String
  | bool b => if b then "true" else "false"
  | int n => Decimal.intText n
  | text s => quote s

def newLine (depth : Nat) : String :=
  "\n" ++ String.ofList (List.replicate (2 * depth) ' ')

mutual

/-- The text of a value that stands `depth` steps in. -/
def print (depth : Nat) : Json → String
  | .scalar value => value.print
  | .list [] => "[]"
  | .list (item :: items) =>
    "[" ++ newLine (depth + 1) ++ print (depth + 1) item ++ printItems (depth + 1) items ++
      newLine depth ++ "]"
  | .object [] => "\x7b\x7d"
  | .object ((key, value) :: members) =>
    "\x7b" ++ newLine (depth + 1) ++ quote key ++ ": " ++ print (depth + 1) value ++
      printMembers (depth + 1) members ++ newLine depth ++ "\x7d"

def printItems (depth : Nat) : List Json → String
  | [] => ""
  | item :: items => "," ++ newLine depth ++ print depth item ++ printItems depth items

def printMembers (depth : Nat) : List (String × Json) → String
  | [] => ""
  | (key, value) :: members =>
    "," ++ newLine depth ++ quote key ++ ": " ++ print depth value ++ printMembers depth members

end

def pretty (value : Json) : String := print 0 value

end OrdinalAdmission.Json
