import OrdinalAdmission.Patch.Operation

/-!
# Carrying out a patch

Every path has to lead somewhere: to an existing value for a removal or a replacement, to a place in
an existing object or list for an addition. Adding to a list moves the items behind the position up,
removing moves them down.
-/

namespace OrdinalAdmission.Patch

open Json (member?)

/-- The members with `value` at `key`, which keeps its place or is put in increasing order. -/
def setMember (key : String) (value : Json) : List (String × Json) → List (String × Json)
  | [] => [(key, value)]
  | (k, v) :: rest =>
    match compare key k with
    | .lt => (key, value) :: (k, v) :: rest
    | .eq => (key, value) :: rest
    | .gt => (k, v) :: setMember key value rest

def dropMember (key : String) (members : List (String × Json)) : List (String × Json) :=
  members.filter fun member => member.1 != key

def atPath (edit : Json → Option Json) : Pointer → Json → Option Json
  | [], document => edit document
  | step :: path, .object members => do
    let value ← atPath edit path (← member? step members)
    return .object (setMember step value members)
  | step :: path, .list items => do
    let i ← Pointer.position? step
    let value ← atPath edit path (← items[i]?)
    return .list (items.set i value)
  | _ :: _, .scalar _ => none

def addAt (step : String) (value : Json) : Json → Option Json
  | .object members => some (.object (setMember step value members))
  | .list items => do
    let i ← if step = "-" then some items.length else Pointer.position? step
    if i ≤ items.length then some (.list (items.insertIdx i value)) else none
  | .scalar _ => none

def removeAt (step : String) : Json → Option Json
  | .object members => do
    let _ ← member? step members
    return .object (dropMember step members)
  | .list items => do
    let i ← Pointer.position? step
    if i < items.length then some (.list (items.eraseIdx i)) else none
  | .scalar _ => none

/-- The document after one operation; `none` where its path leads nowhere. -/
def Operation.apply : Operation → Json → Option Json
  | replace path value, document => atPath (fun _ => some value) path document
  | add path value, document =>
    match path.getLast? with
    | none => some value
    | some step => atPath (addAt step value) path.dropLast document
  | remove path, document =>
    match path.getLast? with
    | none => none
    | some step => atPath (removeAt step) path.dropLast document

def apply (patch : List Operation) (document : Json) : Option Json :=
  patch.foldlM (fun document operation => operation.apply document) document

end OrdinalAdmission.Patch
