import OrdinalAdmission.Yaml.Node
import OrdinalAdmission.Yaml.Token

/-!
# YAML documents

The tokens of a text, put together to the one document it may hold. A place where a node could stand
but none does counts as a missing one, and so does a text without any document.
-/

namespace OrdinalAdmission.Yaml

namespace Node

/-- Whether the next token cannot start a node where one of `ends` may follow. -/
def isMissingBefore (ends : List Token) (tokens : List Token) : Bool :=
  tokens.head?.all (ends.contains ·)

mutual

/-- A node. Block collections are admissible only outside brackets; entries without a collection
start, only as a mapping's key or value. -/
def ofTokens (block entries : Bool) : Nat → List Token → Option (Node × List Token)
  | 0, _ => none
  | fuel + 1, tokens =>
    match tokens with
    | .scalar text plain :: rest => some (scalar text plain, rest)
    | .flowSequence :: rest => flowItems true fuel rest
    | .flowMapping :: rest => flowPairs true fuel rest
    | .blockSequence :: rest => if block then blockItems fuel rest else none
    | .blockMapping :: rest => if block then blockPairs fuel rest else none
    | .blockEntry :: _ => if entries then looseItems fuel tokens else none
    | _ => none

def optional (block entries : Bool) (ends : List Token) :
    Nat → List Token → Option (Node × List Token)
  | 0, _ => none
  | fuel + 1, tokens =>
    if isMissingBefore ends tokens then some (missing, tokens)
    else ofTokens block entries fuel tokens

def valueOf (block : Bool) (ends : List Token) : Nat → List Token → Option (Node × List Token)
  | 0, _ => none
  | fuel + 1, tokens =>
    match tokens with
    | .value :: rest => optional block block ends fuel rest
    | _ => some (missing, tokens)

def blockItems : Nat → List Token → Option (Node × List Token)
  | 0, _ => none
  | fuel + 1, tokens =>
    match tokens with
    | .blockEntry :: rest => do
      let (item, rest) ← optional true false [.blockEntry, .blockEnd] fuel rest
      let (more, rest) ← blockItems fuel rest
      return (more.push item, rest)
    | .blockEnd :: rest => some (list [], rest)
    | _ => none

/-- Entries at the indentation of the mapping around them. -/
def looseItems : Nat → List Token → Option (Node × List Token)
  | 0, _ => none
  | fuel + 1, tokens =>
    match tokens with
    | .blockEntry :: rest => do
      let (item, rest) ← optional true false [.blockEntry, .key, .value, .blockEnd] fuel rest
      let (more, rest) ← looseItems fuel rest
      return (more.push item, rest)
    | _ => some (list [], tokens)

def blockPairs : Nat → List Token → Option (Node × List Token)
  | 0, _ => none
  | fuel + 1, tokens =>
    match tokens with
    | .key :: rest => do
      let ends := [.key, .value, .blockEnd]
      let (key, rest) ← optional true true ends fuel rest
      let (value, rest) ← valueOf true ends fuel rest
      let (more, rest) ← blockPairs fuel rest
      return (more.pushPair key value, rest)
    | .blockEnd :: rest => some (map [], rest)
    | _ => none

/-- Items between brackets; a key among them makes a mapping of one pair. -/
def flowItems (first : Bool) : Nat → List Token → Option (Node × List Token)
  | 0, _ => none
  | fuel + 1, tokens =>
    match tokens with
    | .flowSequenceEnd :: rest => some (list [], rest)
    | _ => do
      let tokens ← if first then some tokens else match tokens with
        | .flowEntry :: rest => some rest
        | _ => none
      match tokens with
      | .flowSequenceEnd :: rest => return (list [], rest)
      | .key :: rest => do
        let ends := [.flowEntry, .flowSequenceEnd]
        let (key, rest) ← optional false false (.value :: ends) fuel rest
        let (value, rest) ← valueOf false ends fuel rest
        let (more, rest) ← flowItems false fuel rest
        return (more.push (map [(key, value)]), rest)
      | _ => do
        let (item, rest) ← ofTokens false false fuel tokens
        let (more, rest) ← flowItems false fuel rest
        return (more.push item, rest)

def flowPairs (first : Bool) : Nat → List Token → Option (Node × List Token)
  | 0, _ => none
  | fuel + 1, tokens =>
    match tokens with
    | .flowMappingEnd :: rest => some (map [], rest)
    | _ => do
      let tokens ← if first then some tokens else match tokens with
        | .flowEntry :: rest => some rest
        | _ => none
      match tokens with
      | .flowMappingEnd :: rest => return (map [], rest)
      | .key :: rest => do
        let ends := [.flowEntry, .flowMappingEnd]
        let (key, rest) ← optional false false (.value :: ends) fuel rest
        let (value, rest) ← valueOf false ends fuel rest
        let (more, rest) ← flowPairs false fuel rest
        return (more.pushPair key value, rest)
      | _ => do
        let (key, rest) ← ofTokens false false fuel tokens
        let (more, rest) ← flowPairs false fuel rest
        return (more.pushPair key missing, rest)

end

end Node

/-- The node of the only document of `tokens`. Only behind its start may a document be empty. -/
def Node.ofDocument? (tokens : List Token) : Option Node := do
  let fuel := 4 * tokens.length + 4
  let (node, rest) ← match tokens with
    | [] => some (missing, [])
    | .documentStart :: rest =>
      Node.optional true false [.documentStart, .documentEnd] fuel rest
    | _ => Node.ofTokens true false fuel tokens
  if rest.all (· == .documentEnd) then some node else none

def parse? (source : String) : Option Node := do
  Node.ofDocument? (← tokens? source)

end OrdinalAdmission.Yaml
