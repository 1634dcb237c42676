import OrdinalAdmission.Yaml.Scalar

/-!
# Document nodes

What a YAML or JSON document holds, before anyone says which types its scalars have: a scalar is
its text, and only a plain one may read as a null, a truth value or a number. Maps keep their
entries in the order of the document, repeated keys included.
-/

namespace OrdinalAdmission.Yaml

inductive Node where
  | scalar (text : String) (plain : Bool)
  | list (items : List Node)
  | map (entries : List (Node × Node))
  deriving Repr, Inhabited

namespace Node

def push (node item : Node) : Node :=
  match node with
  | list items => list (item :: items)
  | other => other

def pushPair (node key value : Node) : Node :=
  match node with
  | map entries => map ((key, value) :: entries)
  | other => other

def missing : Node := scalar "" true

def isMissing : Node → Bool
  | scalar text plain => plain && text.isEmpty
  | _ => false

def isNull : Node → Bool
  | scalar text plain => plain && (text.isEmpty || isNullText text)
  | _ => false

/-- Any scalar is a text, whatever it looks like. -/
def text? : Node → Option String
  | scalar text _ => some text
  | _ => none

def bool? : Node → Option Bool
  | scalar text true => Yaml.bool? text
  | _ => none

def int? : Node → Option Int
  | scalar text true => Yaml.int? text
  | _ => none

def items? : Node → Option (List Node)
  | list items => some items
  | node => if node.isMissing then some [] else none

def entries? : Node → Option (List (String × Node))
  | map entries => entries.mapM fun (key, value) => key.text?.map (·, value)
  | node => if node.isMissing then some [] else none

end Node

end OrdinalAdmission.Yaml
