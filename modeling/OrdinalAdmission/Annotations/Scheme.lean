import OrdinalAdmission.Annotations.Name
import OrdinalAdmission.Kube.Metadata
import OrdinalAdmission.Text.Blank
import OrdinalAdmission.Text.Cut

/-!
# The spelling of annotation keys

A key of interest starts with the scheme's stem and goes on with a feature; a qualifier may follow
a separator. The last separator counts, so features must be free of it while qualifiers always are:
digits, hyphens and blanks are refused as separators.
-/

namespace OrdinalAdmission.Annotations

structure Scheme where
  stem : String
  separator : Char
  deriving DecidableEq, Repr, Inhabited

inductive SchemeError where
  | emptyStem
  | unusableSeparator (separator : Char)
  deriving DecidableEq, Repr, Inhabited

def SchemeError.message : SchemeError → String
  | emptyStem => "annotation prefix must not be empty"
  | unusableSeparator separator =>
    s!"annotation separator '{separator}' collides with qualifier syntax"

namespace Scheme

def standard : Scheme := ⟨"spoditor.io/", '_'⟩

/-- Whether `c` could stand in a qualifier, or next to one unseen. -/
def isUnusable (c : Char) : Bool :=
  c.isDigit || c == '-' || Text.isBlank c

def make (stem : String) (separator : Char) : Except SchemeError Scheme :=
  if stem.isEmpty then .error .emptyStem
  else if isUnusable separator then .error (.unusableSeparator separator)
  else .ok ⟨stem, separator⟩

def afterStem? : List Char → List Char → Option (List Char)
  | [], key => some key
  | _ :: _, [] => none
  | s :: stem, k :: key => if s = k then afterStem? stem key else none

/-- The name a key spells; `none` for a key outside the scheme. -/
def nameOf? (scheme : Scheme) (key : String) : Option Name :=
  (afterStem? scheme.stem.toList key.toList).map fun rest =>
    match Text.cutLast? scheme.separator rest with
    | some (feature, qualifier) => ⟨String.ofList feature, String.ofList qualifier⟩
    | none => ⟨String.ofList rest, ""⟩

def keyOf (scheme : Scheme) (name : Name) : String :=
  if name.qualifier.isEmpty then scheme.stem ++ name.feature
  else scheme.stem ++ name.feature ++ String.singleton scheme.separator ++ name.qualifier

/-- The annotations of interest among `annotations`. Keys are taken in increasing order and of two
keys that spell one name the later counts. -/
def collectFrom (scheme : Scheme) (annotations : List (String × String)) : Collection :=
  annotations.foldl (fun found (key, value) =>
    match scheme.nameOf? key with
    | some name => found.insert name value
    | none => found) SortedMap.empty

def collect (scheme : Scheme) (metadata : Kube.Metadata) : Collection :=
  scheme.collectFrom (metadata.annotations.elim [] (·.toList))

end Scheme

end OrdinalAdmission.Annotations
