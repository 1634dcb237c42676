import OrdinalAdmission.Json.Reader

/-!
# Skipping a JSON value

The value of a field nobody asked for is only scanned: nesting has no limit, escapes need not form
characters, and numbers have no range. What is open is kept on a stack of brackets.
-/

namespace OrdinalAdmission.Json.Reader

inductive Bracket where
  | list
  | object
  deriving DecidableEq, Repr

def skipText : Nat → Reader Unit
  | 0 => throw .truncated
  | fuel + 1 => do
    match ← get with
    | [] => throw .truncated
    | '"' :: rest => set rest
    | '\\' :: [] => throw .truncated
    | '\\' :: 'u' :: rest =>
      set rest
      let _ ← hexUnit
      skipText fuel
    | '\\' :: e :: rest => if (shortEscape? e).isSome then set rest; skipText fuel else throw .malformed
    | c :: rest => if c.toNat < 0x20 then throw .malformed else set rest; skipText fuel

def skipQuoted : Reader Unit := do
  advance
  skipText ((← get).length + 1)

def skipNumber : Reader Unit := do
  if (← get).head? = some '-' then advance
  let _ ← wholeDigits
  let _ ← fractionDigits
  let _ ← exponent

/-- Scans a value that is neither a list nor an object, or opens one of those. -/
def skipHead : Reader (Option Bracket) := do
  match ← peek with
  | none => throw .truncated
  | some '[' => advance; return some .list
  | some '\x7b' => advance; return some .object
  | some c =>
    if c = 'n' then literally "null".toList
    else if c = 't' then literally "true".toList
    else if c = 'f' then literally "false".toList
    else if c = '-' ∨ c.isDigit then skipNumber
    else if c = '"' then skipQuoted
    else throw .malformed
    return none

def skipKey : Reader Unit := do
  match ← peek with
  | none => throw .truncated
  | some '"' => skipQuoted
  | some _ => throw .malformed
  match ← peek with
  | none => throw .truncated
  | some ':' => advance
  | some _ => throw .malformed

/-- Closes brackets after a value, or right after an opening one, until another value is due inside
the innermost bracket left. `afterValue` says that a comma has to come before that value. -/
def skipCloses (afterValue : Bool) : List Bracket → Reader (List Bracket)
  | [] => return []
  | bracket :: outer => do
    match ← peek, bracket with
    | none, _ => throw .truncated
    | some ']', .list => advance; skipCloses true outer
    | some '\x7d', .object => advance; skipCloses true outer
    | some c, _ =>
      if afterValue then
        if c = ',' then advance else throw .malformed
      return bracket :: outer

def skipFrom : Nat → List Bracket → Reader Unit
  | 0, _ => throw .truncated
  | fuel + 1, stack => do
    let stack ← match ← skipHead with
      | some bracket => skipCloses false (bracket :: stack)
      | none => skipCloses true stack
    match stack with
    | [] => return
    | .object :: _ => skipKey; skipFrom fuel stack
    | .list :: _ => skipFrom fuel stack

def skip : Reader Unit := do
  skipFrom ((← get).length + 1) []

end OrdinalAdmission.Json.Reader
