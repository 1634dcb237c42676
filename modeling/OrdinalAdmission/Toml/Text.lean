import OrdinalAdmission.Text.Digit
import OrdinalAdmission.Toml.Reader

/-!
# TOML texts and keys

Texts stand between double quotes, where a backslash escapes, or between single quotes, where
nothing does. Three quotes open a text of several lines: a line break right behind them does not
count, and up to two quotes may stand inside, at the end as well.
-/

namespace OrdinalAdmission.Toml.Reader

def codePoint (width : Nat) : Reader Char := do
  let cs ← get
  let digits := cs.take width
  if digits.length < width then failure
  set (cs.drop width)
  Text.char? (← Text.number? 16 digits)

def escaped : Reader Char := do
  match ← get with
  | c :: rest =>
    set rest
    match c with
    | 'b' => return '\x08'
    | 't' => return '\t'
    | 'n' => return '\n'
    | 'f' => return '\x0C'
    | 'r' => return '\r'
    | '"' => return '"'
    | '\\' => return '\\'
    | 'u' => codePoint 4
    | 'U' => codePoint 8
    | _ => failure
  | [] => failure

def lineText (quote : Char) (escapes : Bool) : Nat → Reader (List Char)
  | 0 => failure
  | fuel + 1 => do
    match ← get with
    | [] => failure
    | c :: rest =>
      if c = quote then set rest; return []
      else if isForbidden c then failure
      else if c = '\\' ∧ escapes then
        set rest
        let c ← escaped
        return c :: (← lineText quote escapes fuel)
      else set rest; return c :: (← lineText quote escapes fuel)

/-- Whether only blanks are left on the line, as behind a backslash that joins lines. -/
def joinsLines (cs : List Char) : Bool := (lineBreak? (cs.dropWhile isBlank)).isSome

/-- Blanks and line breaks; a carriage return counts only before a line feed. -/
def skipLines : Nat → List Char → List Char
  | 0, cs => cs
  | fuel + 1, cs =>
    let cs := cs.dropWhile isBlank
    match lineBreak? cs with
    | some rest => skipLines fuel rest
    | none => cs

def linesText (quote : Char) (escapes : Bool) : Nat → Reader (List Char)
  | 0 => failure
  | fuel + 1 => do
    let cs ← get
    match cs with
    | [] => failure
    | c :: rest =>
      if c = quote then
        let run := (cs.takeWhile (· == quote)).length
        if 5 < run then failure
        else if 3 ≤ run then
          set (cs.drop run)
          return List.replicate (run - 3) quote
        else set rest; return c :: (← linesText quote escapes fuel)
      else if let some rest := lineBreak? cs then
        set rest
        return '\n' :: (← linesText quote escapes fuel)
      else if isForbidden c then failure
      else if c = '\\' ∧ escapes then
        if joinsLines rest then
          set (skipLines (rest.length + 1) rest)
          linesText quote escapes fuel
        else
          set rest
          let c ← escaped
          return c :: (← linesText quote escapes fuel)
      else set rest; return c :: (← linesText quote escapes fuel)

/-- A text with its quotes; `multiline` says whether it may have several lines. -/
def text (multiline : Bool) : Reader String := do
  let cs ← get
  let fuel := cs.length + 1
  match cs with
  | quote :: rest =>
    let escapes := quote = '"'
    if quote != '"' && quote != '\'' then failure
    else if rest.take 2 == [quote, quote] then
      if multiline then
        let rest := rest.drop 2
        set ((lineBreak? rest).getD rest)
        return String.ofList (← linesText quote escapes fuel)
      else failure
    else set rest; return String.ofList (← lineText quote escapes fuel)
  | [] => failure

def isBareKeyChar (c : Char) : Bool := c.isAlphanum || c == '-' || c == '_'

def simpleKey : Reader String := do
  match ← peek with
  | some '"' | some '\'' => text false
  | _ =>
    let cs ← get
    let key := cs.takeWhile isBareKeyChar
    if key.isEmpty then failure
    set (cs.dropWhile isBareKeyChar)
    return String.ofList key

/-- The parts of a key, with dots between them; blanks around a part do not count. -/
def keyParts : Nat → Reader (List String)
  | 0 => failure
  | fuel + 1 => do
    blanks
    let part ← simpleKey
    blanks
    if (← peek) = some '.' then
      advance
      return part :: (← keyParts fuel)
    else return [part]

end OrdinalAdmission.Toml.Reader
