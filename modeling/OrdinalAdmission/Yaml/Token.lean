import OrdinalAdmission.Yaml.Block
import OrdinalAdmission.Yaml.Flow

/-!
# YAML tokens

A text becomes a sequence of tokens in which the structure that indentation expresses is explicit:
every block collection has a start and an end. That a scalar or a bracketed collection was a key is
known only at the colon behind it, so a key token is then put in front of what was already read. Such
a key has to stand on one line with its colon; any other key has a question mark before it.
-/

namespace OrdinalAdmission.Yaml

inductive Token where
  | documentStart
  | documentEnd
  | blockSequence
  | blockMapping
  | blockEnd
  | flowSequence
  | flowSequenceEnd
  | flowMapping
  | flowMappingEnd
  | blockEntry
  | flowEntry
  | key
  | value
  | scalar (text : String) (plain : Bool)
  deriving DecidableEq, Repr, Inhabited

/-- A place in the token sequence that may turn out to start a key. -/
structure KeyCandidate where
  required : Bool
  position : Nat
  index : Nat
  line : Nat
  column : Nat
  deriving Inhabited

structure Lexer where
  cursor : Cursor
  tokens : Array Token := #[]
  /-- One past the column of the innermost block collection; zero outside of any. -/
  margin : Nat := 0
  outer : List Nat := []
  /-- The candidate inside each pair of open brackets and outside of all, innermost first. -/
  candidates : List (Option KeyCandidate) := [none]
  keyAllowed : Bool := true

abbrev Lex := StateT Lexer Option

namespace Lex

def emit (token : Token) : Lex Unit :=
  modify fun lexer => { lexer with tokens := lexer.tokens.push token }

def emitAt (position : Nat) (token : Token) : Lex Unit :=
  modify fun lexer => { lexer with tokens := lexer.tokens.insertIdxIfInBounds position token }

def allowKey (allowed : Bool) : Lex Unit :=
  modify fun lexer => { lexer with keyAllowed := allowed }

def skip (n : Nat) : Lex Unit :=
  modify fun lexer => { lexer with cursor := lexer.cursor.skip n }

def inFlow : Lex Bool := return 1 < (← get).candidates.length

def candidate : Lex (Option KeyCandidate) := return ((← get).candidates.head?).join

def setCandidate (found : Option KeyCandidate) : Lex Unit :=
  modify fun lexer => { lexer with candidates := found :: lexer.candidates.tail }

/-- Gives up the candidate; a required one should have become a key. -/
def dropCandidate : Lex Unit := do
  if (← candidate).any (·.required) then failure
  setCandidate none

def noteCandidate : Lex Unit := do
  let lexer ← get
  if lexer.keyAllowed then
    dropCandidate
    let cursor := lexer.cursor
    setCandidate <| some {
      required := !(← inFlow) && lexer.margin == cursor.column + 1
      position := lexer.tokens.size
      index := cursor.index, line := cursor.line, column := cursor.column }

/-- Gives up the candidates that are on an earlier line or too far behind. -/
def dropStale : Lex Unit := do
  let lexer ← get
  let isStale (found : KeyCandidate) : Bool :=
    found.line < lexer.cursor.line || found.index + 1024 < lexer.cursor.index
  if lexer.candidates.any fun found => found.any fun found => isStale found && found.required then
    failure
  set { lexer with candidates := lexer.candidates.map (Option.filter (!isStale ·)) }

def openBlock (column : Nat) (start : Token) (position : Nat) : Lex Unit := do
  let lexer ← get
  if !(← inFlow) && lexer.margin ≤ column then
    set { lexer with margin := column + 1, outer := lexer.margin :: lexer.outer }
    emitAt position start

/-- How many margins lie beyond `limit`, and the ones that are left. -/
def closed (limit margin : Nat) : List Nat → Nat × Nat × List Nat
  | [] => (0, margin, [])
  | next :: outer =>
    if limit < margin then
      let (n, margin, outer) := closed limit next outer
      (n + 1, margin, outer)
    else (0, margin, next :: outer)

def closeBlocks (limit : Nat) : Lex Unit := do
  if !(← inFlow) then
    let lexer ← get
    let (n, margin, outer) := closed limit lexer.margin lexer.outer
    set { lexer with
      margin, outer, tokens := lexer.tokens ++ Array.replicate n Token.blockEnd }

-- ---------------------------------------------------------------------------
-- What tokens do
-- ---------------------------------------------------------------------------

def documentMark (token : Token) : Lex Unit := do
  closeBlocks 0
  dropCandidate
  allowKey false
  skip 3
  emit token

def openFlow (token : Token) : Lex Unit := do
  noteCandidate
  modify fun lexer => { lexer with candidates := none :: lexer.candidates }
  allowKey true
  skip 1
  emit token

def closeFlow (token : Token) : Lex Unit := do
  dropCandidate
  modify fun lexer => { lexer with
    candidates := match lexer.candidates with
      | [last] => [last]
      | candidates => candidates.tail }
  allowKey false
  skip 1
  emit token

def flowEntry : Lex Unit := do
  dropCandidate
  allowKey true
  skip 1
  emit .flowEntry

def blockEntry : Lex Unit := do
  let lexer ← get
  if !(← inFlow) then
    if !lexer.keyAllowed then failure
    openBlock lexer.cursor.column .blockSequence lexer.tokens.size
  dropCandidate
  allowKey true
  skip 1
  emit .blockEntry

def explicitKey : Lex Unit := do
  let lexer ← get
  if !(← inFlow) then
    if !lexer.keyAllowed then failure
    openBlock lexer.cursor.column .blockMapping lexer.tokens.size
  dropCandidate
  allowKey (!(← inFlow))
  skip 1
  emit .key

def value : Lex Unit := do
  let lexer ← get
  match ← candidate with
  | some found =>
    emitAt found.position .key
    openBlock found.column .blockMapping found.position
    setCandidate none
    allowKey false
  | none =>
    if !(← inFlow) then
      if !lexer.keyAllowed then failure
      openBlock lexer.cursor.column .blockMapping lexer.tokens.size
    allowKey (!(← inFlow))
  skip 1
  emit .value

def blockText (literal : Bool) : Lex Unit := do
  dropCandidate
  allowKey true
  skip 1
  let lexer ← get
  let (text, cursor) ← blockScalar literal lexer.margin lexer.cursor
  set { lexer with cursor }
  emit (.scalar (String.ofList text) false)

def quotedText (quote : Char) : Lex Unit := do
  noteCandidate
  allowKey false
  skip 1
  let lexer ← get
  let (text, cursor) ← quotedRest quote (lexer.cursor.rest.length + 1) lexer.cursor
  set { lexer with cursor }
  emit (.scalar (String.ofList text) false)

def plainText : Lex Unit := do
  noteCandidate
  allowKey false
  let lexer ← get
  let (text, broken, cursor) ←
    plainWords (← inFlow) lexer.margin (lexer.cursor.rest.length + 1) {} lexer.cursor
  set { lexer with cursor }
  if broken then allowKey true
  emit (.scalar (String.ofList text) true)

def startsPlain (flow : Bool) (c : Char) (next : Option Char) : Bool :=
  if c == '-' then !next.any isBlank
  else if c == '?' || c == ':' then !flow && !next.all fun c => isBlank c || isBreak c
  else !(isFlowMark c || c == '#' || c == '&' || c == '*' || c == '!' || c == '|' || c == '>' ||
    c == '\'' || c == '"' || c == '%' || c == '@' || c == '\x60')

/-- Past blanks, comments and line ends. A tab is a blank only where no key may start. -/
def toNextToken : Nat → Lex Unit
  | 0 => failure
  | fuel + 1 => do
    let lexer ← get
    let tabs := (← inFlow) || !lexer.keyAllowed
    let cursor := lexer.cursor.skipWhile fun c => c == ' ' || (tabs && c == '\t')
    let cursor := if cursor.peek == some '#' then cursor.skipWhile (!isBreak ·) else cursor
    if cursor.atBreak then
      set { lexer with cursor := cursor.skipBreak }
      if !(← inFlow) then allowKey true
      toNextToken fuel
    else set { lexer with cursor }

def next : Lex Unit := do
  let lexer ← get
  let cursor := lexer.cursor
  let flow ← inFlow
  let alone := cursor.skip.atGap
  match cursor.peek with
  | none => failure
  | some c =>
    if cursor.atDocumentStart then documentMark .documentStart
    else if cursor.atDocumentEnd then documentMark .documentEnd
    else if c == '[' then openFlow .flowSequence
    else if c == '\x7b' then openFlow .flowMapping
    else if c == ']' then closeFlow .flowSequenceEnd
    else if c == '\x7d' then closeFlow .flowMappingEnd
    else if c == ',' then flowEntry
    else if c == '-' && alone then blockEntry
    else if c == '?' && (flow || alone) then explicitKey
    else if c == ':' && (flow || alone) then value
    else if (c == '|' || c == '>') && !flow then blockText (c == '|')
    else if c == '\'' || c == '"' then quotedText c
    else if startsPlain flow c cursor.skip.peek then plainText
    else failure

def all : Nat → Lex Unit
  | 0 => failure
  | fuel + 1 => do
    toNextToken (fuel + 1)
    dropStale
    let cursor := (← get).cursor
    if cursor.atEnd then
      closeBlocks 0
      dropCandidate
    else
      closeBlocks (cursor.column + 1)
      next
      all fuel

end Lex

/-- The tokens of a text; a byte order mark may go before it. -/
def tokens? (source : String) : Option (List Token) :=
  let cs := match source.toList with
    | '\uFEFF' :: rest => rest
    | cs => cs
  if cs.all isAllowed then
    ((Lex.all (cs.length + 1)).run { cursor := { rest := cs } }).map fun (_, lexer) =>
      lexer.tokens.toList
  else none

end OrdinalAdmission.Yaml
