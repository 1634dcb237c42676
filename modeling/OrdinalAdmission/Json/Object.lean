import OrdinalAdmission.Json.Skip
import OrdinalAdmission.SortedMap

/-!
# Reading JSON objects into records

A record starts blank and every member of the object sets one of its fields; members with a key no
field has are skipped. There are two disciplines. A Kubernetes object lets a later member override
an earlier one and treats a null as absence. A configuration object refuses a repeated key, insists
on its required fields and may also be written as the list of its fields in order.
-/

namespace OrdinalAdmission.Json.Reader

structure Setter (σ : Type) where
  key : String
  required : Bool
  read : Reader (σ → σ)

variable {σ : Type}

def Setter.find? (key : String) (setters : List (Setter σ)) : Option (Setter σ) :=
  setters.find? (·.key == key)

def lenientMembers (setters : List (Setter σ)) : Nat → Bool → σ → Reader σ
  | 0, _, _ => throw .truncated
  | fuel + 1, first, record => do
    match ← nextKey first with
    | none => advance; return record
    | some key =>
      colon
      match Setter.find? key setters with
      | some setter => lenientMembers setters fuel false ((← setter.read) record)
      | none => skip; lenientMembers setters fuel false record

/-- An object in which the last of equal keys counts. A list in its place is refused unread. -/
def lenientObject (blank : σ) (setters : List (Setter σ)) : Reader σ := do
  if (← peek) = some '\x7b' then
    advance
    lenientMembers setters ((← get).length + 1) true blank
  else unexpected

/-- `seen` holds the known keys met so far. -/
def strictMembers (setters : List (Setter σ)) : Nat → List String → Bool → σ → Reader σ
  | 0, _, _, _ => throw .truncated
  | fuel + 1, seen, first, record => do
    match ← nextKey first with
    | none =>
      if setters.any fun setter => setter.required && !seen.contains setter.key then
        throw .mismatched
      advance
      return record
    | some key =>
      match Setter.find? key setters with
      | some setter =>
        if seen.contains key then throw .mismatched
        colon
        strictMembers setters fuel (key :: seen) false ((← setter.read) record)
      | none => colon; skip; strictMembers setters fuel seen false record

/-- The fields of a record written as a list; the ones that are not required may be left out. -/
def strictElements : List (Setter σ) → Bool → σ → Reader σ
  | [], _, record => do
    match ← peek with
    | none => throw .truncated
    | some ']' => advance; return record
    | some _ => throw .malformed
  | setter :: setters, first, record => do
    if ← moreElements first then
      strictElements setters false ((← setter.read) record)
    else if setter.required then throw .mismatched
    else strictElements setters first record

def strictObject (blank : σ) (setters : List (Setter σ)) : Reader σ := do
  match ← peek with
  | some '\x7b' =>
    advance
    strictMembers setters ((← get).length + 1) [] true blank
  | some '[' => advance; strictElements setters true blank
  | _ => unexpected

/-- The members of an object whose values are all texts; the last of equal keys counts. -/
def textMembers : Nat → Bool → TextMap → Reader TextMap
  | 0, _, _ => throw .truncated
  | fuel + 1, first, entries => do
    match ← nextKey first with
    | none => advance; return entries
    | some key => colon; textMembers fuel false (entries.insert key (← text))

def textObject : Reader TextMap := do
  if (← peek) = some '\x7b' then
    advance
    textMembers ((← get).length + 1) true {}
  else unexpected

end OrdinalAdmission.Json.Reader
