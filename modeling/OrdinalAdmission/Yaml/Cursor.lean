/-!
# Places in a YAML text

A cursor is what is left of a text and how far it has come: which line and column it is at decides
what a character means. Line feeds, carriage returns and the Unicode line ends all end a line.
-/

namespace OrdinalAdmission.Yaml

def isBlank (c : Char) : Bool := c == ' ' || c == '\t'

def isBreak (c : Char) : Bool :=
  c == '\n' || c == '\r' || c == '\u0085' || c == '\u2028' || c == '\u2029'

def isAllowed (c : Char) : Bool :=
  let n := c.toNat
  n == 0x09 || n == 0x0A || n == 0x0D || (0x20 ≤ n && n ≤ 0x7E) || n == 0x85 ||
    (0xA0 ≤ n && n ≤ 0xD7FF) || (0xE000 ≤ n && n ≤ 0xFFFD) || 0x10000 ≤ n

structure Cursor where
  rest : List Char
  index : Nat := 0
  line : Nat := 0
  column : Nat := 0
  deriving Inhabited

namespace Cursor

def peek (cursor : Cursor) : Option Char := cursor.rest.head?

def atEnd (cursor : Cursor) : Bool := cursor.rest.isEmpty

def atBlank (cursor : Cursor) : Bool := cursor.peek.any isBlank

def atBreak (cursor : Cursor) : Bool := cursor.peek.any isBreak

def atGap (cursor : Cursor) : Bool := cursor.peek.all fun c => isBlank c || isBreak c

def skip (cursor : Cursor) (n : Nat := 1) : Cursor :=
  { cursor with
    rest := cursor.rest.drop n, index := cursor.index + n, column := cursor.column + n }

def skipWhile (p : Char → Bool) (cursor : Cursor) : Cursor :=
  cursor.skip (cursor.rest.takeWhile p).length

/-- Past the end of the line. A carriage return and a line feed count as one. -/
def skipBreak (cursor : Cursor) : Cursor :=
  let n := match cursor.rest with
    | '\r' :: '\n' :: _ => 2
    | _ => 1
  { rest := cursor.rest.drop n, index := cursor.index + n, line := cursor.line + 1, column := 0 }

/-- What the line end here counts for in a text: a line feed, or one of the two Unicode separators
as it is. At the end of the text there is none. -/
def breakText (cursor : Cursor) : List Char :=
  match cursor.peek with
  | some c =>
    if c == '\u2028' || c == '\u2029' then [c] else if isBreak c then ['\n'] else []
  | none => []

def skipBreak? (cursor : Cursor) : Cursor :=
  if cursor.atBreak then cursor.skipBreak else cursor

/-- Whether the three characters `mark` stand at the start of this line, as a word. -/
def atMark (mark : List Char) (cursor : Cursor) : Bool :=
  cursor.column == 0 && mark.isPrefixOf cursor.rest && (cursor.skip 3).atGap

def atDocumentStart : Cursor → Bool := atMark ['-', '-', '-']

def atDocumentEnd : Cursor → Bool := atMark ['.', '.', '.']

def atDocumentMark (cursor : Cursor) : Bool :=
  cursor.atDocumentStart || cursor.atDocumentEnd

end Cursor

end OrdinalAdmission.Yaml
