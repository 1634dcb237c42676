import OrdinalAdmission.Patch.Operation

/-!
# The patch between two documents

Objects are compared key by key and lists position by position; what only one side has is added or
removed, and any other two values that differ are replaced. Removing from a list shifts what comes
after it, so the surplus of the longer old list is removed at one and the same position.
-/

namespace OrdinalAdmission.Patch

def removedMembers (path : Pointer) (old new : List (String × Json)) : List Operation :=
  (old.filter fun member => (Json.member? member.1 new).isNone).map fun member =>
    .remove (path ++ [member.1])

mutual

def diff (path : Pointer) (old : Json) : Json → List Operation
  | .scalar new =>
    match old with
    | .scalar value => if value = new then [] else [.replace path (.scalar new)]
    | _ => [.replace path (.scalar new)]
  | .list new =>
    match old with
    | .list items => diffItems path 0 items new
    | _ => [.replace path (.list new)]
  | .object new =>
    match old with
    | .object members => diffMembers path members new ++ removedMembers path members new
    | _ => [.replace path (.object new)]

def diffItems (path : Pointer) (i : Nat) (old : List Json) : List Json → List Operation
  | [] => old.map fun _ => .remove (path ++ [Pointer.position i])
  | new :: rest =>
    match old with
    | [] => .add (path ++ [Pointer.position i]) new :: diffItems path (i + 1) [] rest
    | item :: items =>
      diff (path ++ [Pointer.position i]) item new ++ diffItems path (i + 1) items rest

def diffMembers (path : Pointer) (old : List (String × Json)) :
    List (String × Json) → List Operation
  | [] => []
  | (key, new) :: rest =>
    (match Json.member? key old with
      | some value => diff (path ++ [key]) value new
      | none => [.add (path ++ [key]) new]) ++ diffMembers path old rest

end

end OrdinalAdmission.Patch
