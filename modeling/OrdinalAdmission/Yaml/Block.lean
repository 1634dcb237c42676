import OrdinalAdmission.Text.Digit
import OrdinalAdmission.Yaml.Cursor

/-!
# Block scalars

A block scalar is made of the lines that are indented far enough; a hint may say how far, else the
first line with anything on it does. Literal scalars keep their line ends. Folded ones join two
neighbouring lines by a blank unless one of them starts with a blank. The line ends at the scalar's
end are kept, dropped, or reduced to one.
-/

namespace OrdinalAdmission.Yaml

inductive Chomping where
  | strip
  | clip
  | keep
  deriving DecidableEq, Repr, Inhabited

structure BlockHeader where
  chomping : Chomping := .clip
  /-- How far the lines are indented beyond the collection around them. -/
  indent : Option Nat := none
  deriving Inhabited

def chomping? : Char → Option Chomping
  | '+' => some .keep
  | '-' => some .strip
  | _ => none

/-- The two hints behind the indicator, in either order. An indentation of zero is refused. -/
def BlockHeader.read (cursor : Cursor) : Option (BlockHeader × Cursor) :=
  let indent (c : Char) : Option Nat := Text.digit? 10 c
  match cursor.rest with
  | c :: d :: _ =>
    match chomping? c, indent c with
    | some chomping, _ =>
      match indent d with
      | some 0 => none
      | some n => some ({ chomping, indent := some n }, cursor.skip 2)
      | none => some ({ chomping }, cursor.skip)
    | none, some 0 => none
    | none, some n =>
      match chomping? d with
      | some chomping => some ({ chomping, indent := some n }, cursor.skip 2)
      | none => some ({ indent := some n }, cursor.skip)
    | none, none => some ({}, cursor)
  | [c] =>
    match chomping? c, indent c with
    | some chomping, _ => some ({ chomping }, cursor.skip)
    | none, some 0 => none
    | none, some n => some ({ indent := some n }, cursor.skip)
    | none, none => some ({}, cursor)
  | [] => some ({}, cursor)

/-- Indentation and empty lines: the line ends met, the deepest column, and where the next line with
anything on it goes on. Blanks are eaten up to the column `indent` where it is known; a tab in their
place is refused. -/
def blockMargin (indent : Option Nat) :
    Nat → Nat → Cursor → Option (List Char × Nat × Cursor)
  | 0, _, _ => none
  | fuel + 1, deepest, cursor =>
    let blanks := (cursor.rest.takeWhile (· == ' ')).length
    let cursor := cursor.skip (match indent with
      | some column => min blanks (column - cursor.column)
      | none => blanks)
    let deepest := max deepest cursor.column
    if cursor.peek == some '\t' && indent.all (cursor.column < ·) then none
    else if cursor.atBreak then do
      let (more, deepest, next) ← blockMargin indent fuel deepest cursor.skipBreak
      return (cursor.breakText ++ more, deepest, next)
    else some ([], deepest, cursor)

structure BlockState where
  text : List Char := []
  lineBreak : List Char := []
  emptyLines : List Char := []
  leadingBlank : Bool := false

def BlockState.joined (state : BlockState) (literal blank : Bool) : List Char :=
  if !literal && state.lineBreak.head? == some '\n' && !state.leadingBlank && !blank then
    state.text ++ (if state.emptyLines.isEmpty then [' '] else state.emptyLines)
  else state.text ++ state.lineBreak ++ state.emptyLines

def blockLines (literal : Bool) (indent : Nat) :
    Nat → BlockState → Cursor → Option (BlockState × Cursor)
  | 0, _, _ => none
  | fuel + 1, state, cursor =>
    if cursor.column == indent && !cursor.atEnd then do
      let blank := cursor.atBlank
      let line := cursor.rest.takeWhile (!isBreak ·)
      let cursor := cursor.skip line.length
      let (emptyLines, _, next) ←
        blockMargin (some indent) (cursor.rest.length + 1) 0 cursor.skipBreak?
      blockLines literal indent fuel {
        text := state.joined literal blank ++ line
        lineBreak := cursor.breakText
        emptyLines
        leadingBlank := blank } next
    else some (state, cursor)

/-- A block scalar whose indicator has been taken. `margin` is one past the column of the collection
around it, zero outside of any. -/
def blockScalar (literal : Bool) (margin : Nat) (cursor : Cursor) :
    Option (List Char × Cursor) := do
  let (header, cursor) ← BlockHeader.read cursor
  let cursor := cursor.skipWhile isBlank
  let cursor := if cursor.peek == some '#' then cursor.skipWhile (!isBreak ·) else cursor
  if !(cursor.atEnd || cursor.atBreak) then none
  else
    let cursor := cursor.skipBreak?
    let fuel := cursor.rest.length + 1
    let hinted := header.indent.map (margin - 1 + ·)
    let (emptyLines, deepest, cursor) ← blockMargin hinted fuel 0 cursor
    let indent := hinted.getD (max 1 (max deepest margin))
    let (state, cursor) ← blockLines literal indent fuel { emptyLines } cursor
    let tail := match header.chomping with
      | .strip => []
      | .clip => state.lineBreak
      | .keep => state.lineBreak ++ state.emptyLines
    return (state.text ++ tail, cursor)

end OrdinalAdmission.Yaml
