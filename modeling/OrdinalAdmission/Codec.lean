import OrdinalAdmission.Json.Object
import OrdinalAdmission.Json.Value
import OrdinalAdmission.SortedMap
import OrdinalAdmission.Yaml.Node

/-!
# One description per type for writing and reading

A codec says how values of a type are written as JSON and how they are read, both from a document
node and from JSON text. A record's codec is its list of fields; writing follows that list, so it
stands in the order of the keys.
-/

namespace OrdinalAdmission

structure Codec (α : Type) where
  encode : α → Json
  ofNode? : Yaml.Node → Option α
  read : Json.Reader α

namespace Codec

open Json (Reader)

def text : Codec String where
  encode := Json.text
  ofNode? := Yaml.Node.text?
  read := Reader.text

def bool : Codec Bool where
  encode := Json.bool
  ofNode? := Yaml.Node.bool?
  read := Reader.bool

def int32 : Codec Int32 where
  encode n := Json.int n.toInt
  ofNode? node := do
    let n ← node.int?
    if Int32.minValue.toInt ≤ n ∧ n ≤ Int32.maxValue.toInt then some (Int32.ofInt n) else none
  read := Int32.ofInt <$> Reader.int Int32.minValue.toInt Int32.maxValue.toInt

def int64 : Codec Int64 where
  encode n := Json.int n.toInt
  ofNode? node := do
    let n ← node.int?
    if Int64.minValue.toInt ≤ n ∧ n ≤ Int64.maxValue.toInt then some (Int64.ofInt n) else none
  read := Int64.ofInt <$> Reader.int Int64.minValue.toInt Int64.maxValue.toInt

def list {α : Type} (item : Codec α) : Codec (List α) where
  encode items := .list (items.map item.encode)
  ofNode? node := do (← node.items?).mapM item.ofNode?
  read := Reader.list item.read

def textMap : Codec TextMap where
  encode m := .object (m.toList.map fun (key, value) => (key, Json.text value))
  ofNode? node := do
    let entries ← (← node.entries?).mapM fun (key, value) => value.text?.map (key, ·)
    return .ofList entries
  read := Reader.textObject

structure Field (σ : Type) where
  key : String
  required : Bool
  encode : σ → Option Json
  ofNode? : Yaml.Node → Option (σ → σ)
  read : Reader (σ → σ)

variable {σ α : Type}

def Field.optional (key : String) (codec : Codec α) (get : σ → Option α) (set : Option α → σ → σ) :
    Field σ where
  key
  required := false
  encode record := (get record).map codec.encode
  ofNode? node := if node.isNull then some (set none) else (codec.ofNode? node).map (set ∘ some)
  read := set <$> Reader.nullable codec.read

/-- A field that is always written; where it is missing or null it is read as `blank`. -/
def Field.defaulted (key : String) (codec : Codec α) (blank : α) (get : σ → α) (set : α → σ → σ) :
    Field σ where
  key
  required := false
  encode record := some (codec.encode (get record))
  ofNode? node := if node.isNull then some (set blank) else (codec.ofNode? node).map set
  read := (fun value => set (value.getD blank)) <$> Reader.nullable codec.read

/-- A field that every object of the kind writes alike and that is checked where it is present. -/
def Field.fixed (key value : String) : Field σ where
  key
  required := false
  encode _ := some (Json.text value)
  ofNode? node := if node.text? = some value then some id else none
  read := do if (← Reader.text) = value then return id else throw .mismatched

/-- A field of a configuration object, never null. -/
def Field.strict (key : String) (required : Bool) (codec : Codec α) (get : σ → α) (set : α → σ → σ) :
    Field σ where
  key
  required
  encode record := some (codec.encode (get record))
  ofNode? node := (codec.ofNode? node).map set
  read := set <$> codec.read

def encodeFields (fields : List (Field σ)) (record : σ) : Json :=
  .object (fields.filterMap fun field => (field.encode record).map (field.key, ·))

/-- Sets the fields the entries name, from left to right; other entries are ignored. -/
def fieldsOfEntries? (fields : List (Field σ)) (record : σ) : List (String × Yaml.Node) → Option σ
  | [] => some record
  | (key, node) :: rest =>
    match fields.find? (·.key == key) with
    | some field => do fieldsOfEntries? fields ((← field.ofNode? node) record) rest
    | none => fieldsOfEntries? fields record rest

def setters (fields : List (Field σ)) : List (Reader.Setter σ) :=
  fields.map fun field => ⟨field.key, field.required, field.read⟩

def object (blank : σ) (fields : List (Field σ)) : Codec σ where
  encode := encodeFields fields
  ofNode? node := do fieldsOfEntries? fields blank (← node.entries?)
  read := Reader.lenientObject blank (setters fields)

def configuration (blank : σ) (fields : List (Field σ)) : Codec σ where
  encode := encodeFields fields
  ofNode? node := do fieldsOfEntries? fields blank (← node.entries?)
  read := Reader.strictObject blank (setters fields)

end Codec

end OrdinalAdmission
