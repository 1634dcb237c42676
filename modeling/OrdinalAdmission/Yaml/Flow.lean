import OrdinalAdmission.Text.Digit
import OrdinalAdmission.Yaml.Cursor

/-!
# Plain and quoted scalars

Both kinds may go over several lines. A single line end between two words is folded to a blank, and
of several the first is dropped; blanks next to line ends are dropped as well.
-/

namespace OrdinalAdmission.Yaml

structure Gap where
  blanks : List Char := []
  breaks : List Char := []
  /-- Whether the line end is escaped and hence no part of the scalar. -/
  escaped : Bool := false
  deriving Inhabited

def Gap.hasBreak (gap : Gap) : Bool := gap.escaped || !gap.breaks.isEmpty

def Gap.folded (gap : Gap) : List Char :=
  if gap.escaped then gap.breaks
  else match gap.breaks with
    | [] => gap.blanks
    | '\n' :: [] => [' ']
    | '\n' :: more => more
    | breaks => breaks

/-- Reads a gap on from `gap`. On a line of its own, a tab in front of the column `margin` is
refused. -/
def Gap.read (margin : Nat) : Nat → Gap → Cursor → Option (Gap × Cursor)
  | 0, _, _ => none
  | fuel + 1, gap, cursor =>
    match cursor.peek with
    | some c =>
      if isBlank c then
        if gap.hasBreak then
          if c == '\t' && cursor.column < margin then none
          else Gap.read margin fuel gap cursor.skip
        else Gap.read margin fuel { gap with blanks := gap.blanks ++ [c] } cursor.skip
      else if isBreak c then
        Gap.read margin fuel { gap with breaks := gap.breaks ++ cursor.breakText } cursor.skipBreak
      else some (gap, cursor)
    | none => some (gap, cursor)

-- ---------------------------------------------------------------------------
-- Plain scalars
-- ---------------------------------------------------------------------------

def isFlowMark (c : Char) : Bool := c == ',' || c == '[' || c == ']' || c == '\x7b' || c == '\x7d'

/-- A word of a plain scalar. It ends at a gap and at a colon with a gap behind it; inside brackets
also at their marks, where a colon must not touch one. -/
def plainWord (flow : Bool) : Nat → Cursor → Option (List Char × Cursor)
  | 0, _ => none
  | fuel + 1, cursor =>
    match cursor.rest with
    | [] => some ([], cursor)
    | c :: rest =>
      if isBlank c || isBreak c then some ([], cursor)
      else if flow && c == ':' && rest.head?.any fun d => isFlowMark d || d == '?' then none
      else if c == ':' && cursor.skip.atGap then some ([], cursor)
      else if flow && isFlowMark c then some ([], cursor)
      else do
        let (word, cursor) ← plainWord flow fuel cursor.skip
        return (c :: word, cursor)

/-- The words of a plain scalar behind `gap`, and whether a line end stands behind the last. Outside
brackets a line that starts in front of the column `margin` ends it. -/
def plainWords (flow : Bool) (margin : Nat) :
    Nat → Gap → Cursor → Option (List Char × Bool × Cursor)
  | 0, _, _ => none
  | fuel + 1, gap, cursor =>
    if cursor.atDocumentMark || cursor.peek == some '#' then some ([], gap.hasBreak, cursor)
    else do
      let (word, cursor) ← plainWord flow (cursor.rest.length + 1) cursor
      if word.isEmpty then return ([], gap.hasBreak, cursor)
      let text := gap.folded ++ word
      if !(cursor.atBlank || cursor.atBreak) then return (text, false, cursor)
      let (gap, cursor) ← Gap.read margin (cursor.rest.length + 1) {} cursor
      if !flow && cursor.column < margin then return (text, gap.hasBreak, cursor)
      let (more, broken, cursor) ← plainWords flow margin fuel gap cursor
      return (text ++ more, broken, cursor)

-- ---------------------------------------------------------------------------
-- Quoted scalars
-- ---------------------------------------------------------------------------

def escapeWidth? : Char → Option Nat
  | 'x' => some 2
  | 'u' => some 4
  | 'U' => some 8
  | _ => none

def escapedChar? : Char → Option Char
  | '0' => some '\x00'
  | 'a' => some '\x07'
  | 'b' => some '\x08'
  | 't' | '\t' => some '\t'
  | 'n' => some '\n'
  | 'v' => some '\x0B'
  | 'f' => some '\x0C'
  | 'r' => some '\r'
  | 'e' => some '\x1B'
  | ' ' => some ' '
  | '"' => some '"'
  | '/' => some '/'
  | '\\' => some '\\'
  | 'N' => some '\u0085'
  | '_' => some '\u00A0'
  | 'L' => some '\u2028'
  | 'P' => some '\u2029'
  | _ => none

def escape? (cs : List Char) : Option (Char × Nat) := do
  let letter ← cs.head?
  match escapeWidth? letter with
  | some width =>
    let digits := (cs.drop 1).take width
    if digits.length < width then none
    else return (← Text.char? (← Text.number? 16 digits), width + 1)
  | none => return (← escapedChar? letter, 1)

/-- The characters of a quoted scalar up to its closing quote, a gap or an escaped line end; the
flag tells the last. -/
def quotedWord (quote : Char) : Nat → Cursor → Option (List Char × Bool × Cursor)
  | 0, _ => none
  | fuel + 1, cursor =>
    match cursor.rest with
    | [] => some ([], false, cursor)
    | c :: rest =>
      if isBlank c || isBreak c then some ([], false, cursor)
      else if c == quote then
        if quote == '\'' && rest.head? == some '\'' then do
          let (word, escaped, cursor) ← quotedWord quote fuel (cursor.skip 2)
          return (c :: word, escaped, cursor)
        else some ([], false, cursor)
      else if quote == '"' && c == '\\' then
        if rest.head?.any isBreak then some ([], true, cursor.skip.skipBreak)
        else do
          let (d, width) ← escape? rest
          let (word, escaped, cursor) ← quotedWord quote fuel (cursor.skip (width + 1))
          return (d :: word, escaped, cursor)
      else do
        let (word, escaped, cursor) ← quotedWord quote fuel cursor.skip
        return (c :: word, escaped, cursor)

def quotedRest (quote : Char) : Nat → Cursor → Option (List Char × Cursor)
  | 0, _ => none
  | fuel + 1, cursor =>
    if cursor.atDocumentMark || cursor.atEnd then none
    else do
      let (word, escaped, cursor) ← quotedWord quote (cursor.rest.length + 1) cursor
      if !escaped && cursor.peek == some quote then return (word, cursor.skip)
      let (gap, cursor) ← Gap.read 0 (cursor.rest.length + 1) { escaped } cursor
      let (more, cursor) ← quotedRest quote fuel cursor
      return (word ++ gap.folded ++ more, cursor)

end OrdinalAdmission.Yaml
