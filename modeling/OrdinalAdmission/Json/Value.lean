/-!
# JSON values

The values this library writes: truth values, integers, texts, lists and objects. An object lists
its members in the order in which they are written, which is always increasing in the key. Nothing
here writes a fraction or a null.
-/

namespace OrdinalAdmission

namespace Json

inductive Scalar where
  | bool (b : Bool)
  | int (n : Int)
  | text (s : String)
  deriving DecidableEq, Repr

end Json

inductive Json where
  | scalar (value : Json.Scalar)
  | list (items : List Json)
  | object (members : List (String × Json))
  deriving Repr, Inhabited

namespace Json

def bool (b : Bool) : Json := scalar (.bool b)

def int (n : Int) : Json := scalar (.int n)

def text (s : String) : Json := scalar (.text s)

def member? (key : String) : List (String × Json) → Option Json
  | [] => none
  | (k, value) :: rest => if k = key then some value else member? key rest

end Json

end OrdinalAdmission
