import OrdinalAdmission.Toml.Atom
import OrdinalAdmission.Toml.Table
import OrdinalAdmission.Toml.Text

/-!
# TOML documents

A document is a sequence of lines: keys with their values and the headers of tables, which say where
the keys after them belong. Lists may go over several lines, tables written in one place may not.
-/

namespace OrdinalAdmission.Toml

namespace Reader

def listRest (value : Reader Value) : Nat → Reader (List Value)
  | 0 => failure
  | fuel + 1 => do
    margin (fuel + 1)
    if (← peek) = some ']' then advance; return []
    else
      let head ← value
      margin (fuel + 1)
      if (← peek) = some ',' then
        advance
        return head :: (← listRest value fuel)
      else
        expect ']'
        return [head]

/-- How many parts a key may not reach, and how deep values may not nest. -/
def depthLimit : Nat := 80

def key : Reader (List String) := do
  let parts ← keyParts ((← get).length + 1)
  if depthLimit ≤ parts.length then failure
  return parts

def pair (value : Reader Value) : Reader (List String × Value) := do
  let parts ← key
  expect '='
  blanks
  return (parts, ← value)

def inlineRest (value : Reader Value) : Nat → Entries → Reader Entries
  | 0, _ => failure
  | fuel + 1, entries => do
    let (parts, v) ← pair value
    let entries ← Entries.define v parts entries
    blanks
    if (← peek) = some ',' then
      advance
      inlineRest value fuel entries
    else
      expect '\x7d'
      return entries

def value : Nat → Reader Value
  | 0 => failure
  | depth + 1 => do
    let fuel := (← get).length + 1
    match ← peek with
    | some '"' | some '\'' => return .text (← text true)
    | some '[' =>
      if depth = 0 then failure
      advance
      return .list (← listRest (value depth) fuel)
    | some '\x7b' =>
      if depth = 0 then failure
      advance
      blanks
      if (← peek) = some '\x7d' then advance; return .table []
      else return (Item.table .header (← inlineRest (value depth) fuel [])).toValue
    | _ => atom; return .other

/-- One line: `root` with what it defines, and the path that the keys after it belong to. -/
def line (root : Entries) (path : List String) : Reader (Entries × List String) := do
  blanks
  match ← get with
  | '[' :: '[' :: rest =>
    set rest
    let path ← key
    expect ']'
    expect ']'
    lineEnd
    let root ← Entries.editAt (Entries.appendTable (path.getLastD "")) path.dropLast root
    return (root, path)
  | '[' :: rest =>
    set rest
    let path ← key
    expect ']'
    lineEnd
    let root ← Entries.editAt (Entries.openTable (path.getLastD "")) path.dropLast root
    return (root, path)
  | cs =>
    if cs.isEmpty || cs.head? == some '#' || (lineBreak? cs).isSome then
      lineEnd
      return (root, path)
    else
      let (parts, v) ← pair (value depthLimit)
      lineEnd
      return (← Entries.editAt (Entries.define v parts) path root, path)

def lines : Nat → Entries → List String → Reader Entries
  | 0, _, _ => failure
  | fuel + 1, root, path => do
    if (← get).isEmpty then return root
    let (root, path) ← line root path
    lines fuel root path

end Reader

/-- The table a document defines; a byte order mark may go before it. -/
def parse? (source : String) : Option Value := do
  let cs := match source.toList with
    | '\uFEFF' :: rest => rest
    | cs => cs
  let entries ← (Reader.lines (cs.length + 1) [] []).run' cs
  return (Item.table .header entries).toValue

end OrdinalAdmission.Toml
