import OrdinalAdmission.Json.Value
import OrdinalAdmission.Patch.Pointer

/-!
# JSON patches

A patch is a list of operations that are carried out one after the other, each on the document the
one before it left.
-/

namespace OrdinalAdmission.Patch

inductive Operation where
  | add (path : Pointer) (value : Json)
  | remove (path : Pointer)
  | replace (path : Pointer) (value : Json)
  deriving Inhabited

namespace Operation

def path : Operation → Pointer
  | add path _ | remove path | replace path _ => path

def encode : Operation → Json
  | add path value =>
    .object [("op", Json.text "add"), ("path", Json.text path.render), ("value", value)]
  | remove path => .object [("op", Json.text "remove"), ("path", Json.text path.render)]
  | replace path value =>
    .object [("op", Json.text "replace"), ("path", Json.text path.render), ("value", value)]

end Operation

def encode (patch : List Operation) : Json := .list (patch.map Operation.encode)

end OrdinalAdmission.Patch
