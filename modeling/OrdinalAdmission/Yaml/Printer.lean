import OrdinalAdmission.Json.Value
import OrdinalAdmission.Yaml.Cursor
import OrdinalAdmission.Yaml.Scalar

/-!
# Writing YAML

Collections are written in block style, two blanks further in for every mapping; the entries of a
list in a mapping stand at the mapping's own column. How a text is written depends on what a reader
would take it for: as it is, between quotes, or, when it has several lines, as a literal block.
-/

namespace OrdinalAdmission.Yaml

inductive Style where
  | plain
  | single
  | double
  | literal
  deriving DecidableEq, Repr, Inhabited

def isSpecial (c : Char) : Bool :=
  let n := c.toNat
  (n < 0x20 && c != '\n') || (0x7F ≤ n && n ≤ 0x9F && n != 0x85) || n == 0xFEFF || n == 0xFFFE ||
    n == 0xFFFF

def isGap (c : Char) : Bool := isBlank c || isBreak c || c == '\x00'

/-- Whether a blank stands right in front of a line end. -/
def hasSpaceBreak : List Char → Bool
  | c :: d :: rest => (c == ' ' && isBreak d) || hasSpaceBreak (d :: rest)
  | _ => false

/-- Whether a line other than the first starts with a blank. -/
def hasBreakSpace : List Char → Bool
  | c :: d :: rest => (isBreak c && d == ' ') || hasBreakSpace (d :: rest)
  | _ => false

/-- Whether a colon ends a word somewhere, or a number sign starts one other than the first. -/
def hasInnerMark : List Char → Bool
  | [] => false
  | c :: rest =>
    (c == ':' && rest.head?.all isGap) || (isGap c && rest.head? == some '#') || hasInnerMark rest

def startsMarked (cs : List Char) : Bool :=
  match cs with
  | [] => false
  | c :: rest =>
    ['#', ',', '[', ']', '\x7b', '\x7d', '&', '*', '!', '|', '>', '\'', '"', '%', '@', '\x60'].contains c
      || ((c == '-' || c == '?' || c == ':') && rest.head?.all isGap)
      || ['-', '-', '-'].isPrefixOf cs || ['.', '.', '.'].isPrefixOf cs

def plainAllowed (cs : List Char) : Bool :=
  !(cs.isEmpty || startsMarked cs || hasInnerMark cs || cs.head? == some ' ' ||
    cs.getLast? == some ' ' || cs.any isBreak || cs.any isSpecial)

def singleAllowed (cs : List Char) : Bool :=
  !(hasSpaceBreak cs || hasBreakSpace cs || cs.any isSpecial)

def literalAllowed (cs : List Char) : Bool :=
  !(cs.isEmpty || cs.getLast? == some ' ' || hasSpaceBreak cs || cs.any isSpecial)

def quotedStyle (cs : List Char) : Style := if singleAllowed cs then .single else .double

def style (text : String) : Style :=
  let cs := text.toList
  if cs.contains '\n' then if literalAllowed cs then .literal else .double
  else if isAmbiguous text then quotedStyle cs
  else if plainAllowed cs then .plain
  else quotedStyle cs

-- ---------------------------------------------------------------------------
-- Scalars
-- ---------------------------------------------------------------------------

def hexDigits (width n : Nat) : List Char :=
  let digits := (Nat.toDigits 16 n).map Char.toUpper
  List.replicate (width - digits.length) '0' ++ digits

def escapeChar (c : Char) : List Char :=
  if c == '"' then ['\\', '"']
  else if c == '\\' then ['\\', '\\']
  else if !(isSpecial c || isBreak c) then [c]
  else match c with
    | '\x00' => ['\\', '0']
    | '\x07' => ['\\', 'a']
    | '\x08' => ['\\', 'b']
    | '\t' => ['\\', 't']
    | '\n' => ['\\', 'n']
    | '\x0B' => ['\\', 'v']
    | '\x0C' => ['\\', 'f']
    | '\r' => ['\\', 'r']
    | '\x1B' => ['\\', 'e']
    | '\u0085' => ['\\', 'N']
    | '\u2028' => ['\\', 'L']
    | '\u2029' => ['\\', 'P']
    | _ =>
      if c.toNat ≤ 0xFF then '\\' :: 'x' :: hexDigits 2 c.toNat
      else '\\' :: 'u' :: hexDigits 4 c.toNat

/-- Characters as they are, with each line that has any starting at the column `indent`. -/
def indented (indent : Nat) (write : Char → List Char) : Bool → List Char → List Char
  | _, [] => []
  | lineStart, c :: rest =>
    if isBreak c then c :: indented indent write true rest
    else
      (if lineStart then List.replicate indent ' ' else []) ++ write c ++
        indented indent write false rest

/-- A text between single quotes. A lone Unicode line end needs no second one. -/
def singleQuoted (indent : Nat) (cs : List Char) : List Char :=
  ['\''] ++ indented indent (fun c => if c == '\'' then ['\'', '\''] else [c]) false cs ++ ['\'']

/-- The hints of a literal block: an indentation if the first line would hide it, and what becomes
of the line ends at the end. -/
def literalHints (cs : List Char) : List Char :=
  let indent := if cs.head?.any (fun c => c == ' ' || isBreak c) then ['2'] else []
  let chomping := match cs.reverse with
    | [] => ['-']
    | last :: before =>
      if !isBreak last then ['-']
      else if before.isEmpty || before.head?.any isBreak then ['+']
      else []
  indent ++ chomping

def literalBlock (indent : Nat) (cs : List Char) : List Char :=
  ['|'] ++ literalHints cs ++ ['\n'] ++ indented indent (fun c => [c]) true cs ++
    (if cs.getLast?.any isBreak then [] else ['\n'])

def textChars (indent : Nat) (text : String) : List Char :=
  let cs := text.toList
  match style text with
  | .plain => cs
  | .single => singleQuoted indent cs
  | .double => ['"'] ++ cs.flatMap escapeChar ++ ['"']
  | .literal => literalBlock indent cs

def textLine (indent : Nat) (text : String) : List Char :=
  textChars indent text ++ if style text = .literal then [] else ['\n']

def scalarLine (indent : Nat) : Json.Scalar → List Char
  | .bool b => (if b then "true" else "false").toList ++ ['\n']
  | .int n => (Decimal.intText n).toList ++ ['\n']
  | .text s => textLine indent s

-- ---------------------------------------------------------------------------
-- Collections
-- ---------------------------------------------------------------------------

/-- The longest key, in bytes, that may stand on the line of its value. -/
def longestKey : Nat := 128

def isSimpleKey (key : String) : Bool :=
  key.utf8ByteSize ≤ longestKey && !key.toList.any isBreak

def margin (indent : Nat) : List Char := List.replicate indent ' '

mutual

def memberValue (indent : Nat) : Json → List Char
  | .scalar value => ' ' :: scalarLine (indent + 2) value
  | .list items =>
    if items.isEmpty then " []\n".toList else '\n' :: itemLines indent items
  | .object members =>
    if members.isEmpty then " \x7b\x7d\n".toList else '\n' :: memberLines (indent + 2) members

/-- What follows a mark in front of a value, in a collection at the column `indent`. A collection
goes on where the mark ends: what its first line is indented by stands there already. -/
def itemValue (indent : Nat) : Json → List Char
  | .scalar value => ' ' :: scalarLine (indent + 2) value
  | .list items =>
    if items.isEmpty then " []\n".toList
    else ' ' :: (itemLines (indent + 2) items).drop (indent + 2)
  | .object members =>
    if members.isEmpty then " \x7b\x7d\n".toList
    else ' ' :: (memberLines (indent + 2) members).drop (indent + 2)

def itemLines (indent : Nat) : List Json → List Char
  | [] => []
  | item :: items => margin indent ++ '-' :: itemValue indent item ++ itemLines indent items

/-- The members of a mapping. A key too long for the line of its value has lines of its own. -/
def memberLines (indent : Nat) : List (String × Json) → List Char
  | [] => []
  | (key, value) :: members =>
    margin indent ++
      (if isSimpleKey key then textChars (indent + 2) key ++ ':' :: memberValue indent value
      else
        '?' :: ' ' :: textLine (indent + 2) key ++ margin indent ++ ':' :: itemValue indent value) ++
      memberLines indent members

end

def render (value : Json) : String :=
  String.ofList <| match value with
    | .scalar value => scalarLine 2 value
    | .list items => if items.isEmpty then "[]\n".toList else itemLines 0 items
    | .object members => if members.isEmpty then "\x7b\x7d\n".toList else memberLines 0 members

end OrdinalAdmission.Yaml
