import OrdinalAdmission.Kube.Metadata
import OrdinalAdmission.Qualifier

/-!
# Which pod of which StatefulSet

The StatefulSet controller labels every pod it creates with `<set>-<ordinal>`. The set's name may
hold hyphens itself, so the label is cut at its last hyphen; it may not hold a line feed.
-/

namespace OrdinalAdmission

structure Identity where
  statefulSet : String
  ordinal : UInt32
  deriving DecidableEq, Repr, Inhabited

inductive IdentityError where
  | missingLabel (label : String)
  | invalidFormat (value : String)
  | ordinalTooLarge (numeral : String)
  deriving DecidableEq, Repr, Inhabited

def IdentityError.message : IdentityError → String
  | missingLabel label => s!"missing StatefulSet pod name label '{label}'"
  | invalidFormat value => s!"invalid StatefulSet pod name format: '{value}'"
  | ordinalTooLarge numeral =>
    s!"failed to parse pod ordinal '{numeral}': number too large to fit in target type"

namespace Identity

def podName (identity : Identity) : String :=
  identity.statefulSet ++ "-" ++ Decimal.text identity.ordinal.toNat

def ofPodName (value : String) : Except IdentityError Identity :=
  match Text.cutLast? '-' value.toList with
  | none => .error (.invalidFormat value)
  | some (name, numeral) =>
    if name.isEmpty || name.contains '\n' || !Decimal.isNumeral numeral then
      .error (.invalidFormat value)
    else match Decimal.toUInt32? numeral with
      | some ordinal => .ok ⟨String.ofList name, ordinal⟩
      | none => .error (.ordinalTooLarge (String.ofList numeral))

end Identity

def podNameLabel : String := "statefulset.kubernetes.io/pod-name"

structure Identifier where
  identify : Kube.Metadata → Except IdentityError Identity

namespace Identifier

def label (key : String) : Identifier where
  identify metadata :=
    match metadata.labels.bind (·.get? key) with
    | some value => Identity.ofPodName value
    | none => .error (.missingLabel key)

def fixed (identity : Identity) : Identifier where
  identify _ := .ok identity

instance : Inhabited Identifier := ⟨label podNameLabel⟩

end Identifier

end OrdinalAdmission
