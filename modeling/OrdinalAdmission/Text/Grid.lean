import OrdinalAdmission.Text.Cut
import OrdinalAdmission.Text.Width

/-!
# Tables drawn with box characters

A cell holds one or more lines. A column is as wide as the widest line in it, with a blank on both
sides; nothing is ever wrapped. `width_pad` says that a line is filled up to its column.
-/

namespace OrdinalAdmission.Text

inductive Alignment where
  | left
  | center
  deriving DecidableEq, Repr, Inhabited

structure Cell where
  lines : List (List Char)
  alignment : Alignment := .left
  deriving DecidableEq, Repr, Inhabited

namespace Cell

def ofText (text : String) (alignment : Alignment := .left) : Cell :=
  ⟨pieces '\n' text.toList, alignment⟩

def width (cell : Cell) : Nat := (cell.lines.map Text.width).foldl max 0

end Cell

/-- `line` filled up to `columns`; a centred line gets the odd blank on its left. -/
def pad (alignment : Alignment) (columns : Nat) (line : List Char) : List Char :=
  let missing := columns - width line
  let before := match alignment with
    | .left => 0
    | .center => (missing + 1) / 2
  List.replicate before ' ' ++ line ++ List.replicate (missing - before) ' '

theorem width_pad (alignment : Alignment) (columns : Nat) (line : List Char) :
    width (pad alignment columns line) = max columns (width line) := by
  cases alignment <;> simp [pad] <;> omega

structure Rule where
  first : Char
  fill : Char
  cross : Char
  last : Char

namespace Rule

def top : Rule := ⟨'┌', '─', '┬', '┐'⟩
def belowHeader : Rule := ⟨'╞', '═', '╪', '╡'⟩
def betweenRows : Rule := ⟨'├', '╌', '┼', '┤'⟩
def bottom : Rule := ⟨'└', '─', '┴', '┘'⟩

def draw (rule : Rule) (widths : List Nat) : List Char :=
  let parts := widths.map fun columns => List.replicate (columns + 2) rule.fill
  rule.first :: [rule.cross].intercalate parts ++ [rule.last]

end Rule

namespace Grid

def columnWidths (header : List Cell) (rows : List (List Cell)) : List Nat :=
  rows.foldl (fun widths row => List.zipWith max widths (row.map Cell.width))
    (header.map Cell.width)

def rowLine (widths : List Nat) (row : List Cell) (i : Nat) : List Char :=
  let parts := List.zipWith (fun columns cell =>
    ' ' :: pad cell.alignment columns ((cell.lines[i]?).getD []) ++ [' ']) widths row
  '│' :: ['┆'].intercalate parts ++ ['│']

/-- A row is as high as its highest cell. -/
def rowLines (widths : List Nat) (row : List Cell) : List (List Char) :=
  (List.range ((row.map (·.lines.length)).foldl max 0)).map (rowLine widths row)

def lines (header : List Cell) (rows : List (List Cell)) : List (List Char) :=
  let widths := columnWidths header rows
  let body := [Rule.betweenRows.draw widths].intercalate (rows.map (rowLines widths))
  Rule.top.draw widths :: rowLines widths header ++ Rule.belowHeader.draw widths :: body ++
    [Rule.bottom.draw widths]

def render (header : List Cell) (rows : List (List Cell)) : String :=
  String.ofList (['\n'].intercalate (lines header rows))

end Grid

end OrdinalAdmission.Text
