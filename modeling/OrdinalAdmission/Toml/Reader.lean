/-!
# Reading TOML text

A reader takes its value from the front of a text, or refuses the text as a whole.
-/

namespace OrdinalAdmission.Toml

abbrev Reader (α : Type) := StateT (List Char) Option α

namespace Reader

def isBlank (c : Char) : Bool := c == ' ' || c == '\t'

def isForbidden (c : Char) : Bool := (c.toNat < 0x20 && c != '\t') || c == '\x7f'

def blanks : Reader Unit := modify (·.dropWhile isBlank)

def peek : Reader (Option Char) := return (← get).head?

def advance : Reader Unit := modify (·.drop 1)

def expect (c : Char) : Reader Unit := do
  if (← peek) = some c then advance else failure

def lineBreak? : List Char → Option (List Char)
  | '\n' :: rest => some rest
  | '\r' :: '\n' :: rest => some rest
  | _ => none

def comment : Reader Unit := do
  if (← peek) = some '#' then
    modify (·.dropWhile fun c => !isForbidden c)

/-- Blanks, comments and line breaks. `fuel` bounds the number of lines. -/
def margin : Nat → Reader Unit
  | 0 => pure ()
  | fuel + 1 => do
    blanks
    comment
    match lineBreak? (← get) with
    | some rest => set rest; margin fuel
    | none => pure ()

def lineEnd : Reader Unit := do
  blanks
  comment
  match ← get with
  | [] => pure ()
  | cs => match lineBreak? cs with
    | some rest => set rest
    | none => failure

end Reader

end OrdinalAdmission.Toml
