import OrdinalAdmission.Annotations.Name
import OrdinalAdmission.Codec
import OrdinalAdmission.Qualifier

/-!
# Features

A feature is something an annotation can ask for. Its configuration is the JSON text of the one
annotation that names it; two annotations for one feature conflict, whatever they hold, and neither
is preferred.
-/

namespace OrdinalAdmission

inductive Feature where
  | hostPort
  | mountVolume
  deriving DecidableEq, Repr, Inhabited

namespace Feature

def name : Feature → String
  | hostPort => "host-port"
  | mountVolume => "mount-volume"

def standard : List Feature := [mountVolume, hostPort]

def ofName? : String → Option Feature
  | "host-port" => some hostPort
  | "mount-volume" => some mountVolume
  | _ => none

end Feature

inductive MutationError where
  | undecodable (feature : Feature) (fault : Json.Fault)
  | conflicting (feature : Feature) (qualifiers : List String)
  | portOutOfRange (container port : String) (base : Int32) (ordinal : UInt32)
  deriving DecidableEq, Repr, Inhabited

namespace MutationError

def faultMessage : Json.Fault → String
  | .malformed => "malformed JSON"
  | .mismatched => "unexpected value"
  | .truncated => "unexpected end of text"

def message : MutationError → String
  | undecodable feature fault => s!"invalid '{feature.name}' configuration: {faultMessage fault}"
  | conflicting feature qualifiers =>
    s!"conflicting '{feature.name}' annotations with qualifiers " ++
      "[" ++ ", ".intercalate qualifiers ++ "]"
  | portOutOfRange container port base ordinal =>
    s!"host port for '{port}' in container '{container}' out of range: " ++
      Decimal.intText base.toInt ++ " + " ++ Decimal.text ordinal.toNat

/-- Whether the error was raised before anything was changed. -/
def isParseError : MutationError → Bool
  | undecodable .. | conflicting .. => true
  | portOutOfRange .. => false

end MutationError

structure Qualified (α : Type) where
  qualifier : String
  value : α
  deriving DecidableEq

def Qualified.appliesTo {α : Type} (config : Qualified α) (ordinal : UInt32) : Bool :=
  qualifies config.qualifier ordinal

inductive DeclarationFault where
  | undecodable (fault : Json.Fault)
  | conflicting (qualifiers : List String)
  deriving DecidableEq, Repr, Inhabited

def Annotations.Collection.declared? {α : Type} (annotations : Collection) (name : String)
    (codec : Codec α) : Except DeclarationFault (Option (Qualified α)) :=
  match annotations.forFeature name with
  | [] => .ok none
  | [(name, value)] =>
    match codec.read.decode value with
    | .ok config => .ok (some ⟨name.qualifier, config⟩)
    | .error fault => .error (.undecodable fault)
  | several => .error (.conflicting (several.map (·.1.qualifier)))

def MutationError.ofDeclaration (feature : Feature) : DeclarationFault → MutationError
  | .undecodable fault => .undecodable feature fault
  | .conflicting qualifiers => .conflicting feature qualifiers

def Feature.declared? {α : Type} (feature : Feature) (codec : Codec α)
    (annotations : Annotations.Collection) : Except MutationError (Option (Qualified α)) :=
  (annotations.declared? feature.name codec).mapError (.ofDeclaration feature)

end OrdinalAdmission
