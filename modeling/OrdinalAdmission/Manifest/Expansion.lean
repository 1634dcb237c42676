import OrdinalAdmission.Decimal.Numeral
import OrdinalAdmission.Kube.StatefulSet

/-!
# The pods of a StatefulSet

One pod per ordinal from zero on, named and labelled as the controller would, from the set's
template. How many there are says an override, else the set, else there is one.
-/

namespace OrdinalAdmission.Manifest

open Kube

inductive ExpansionError where
  | unnamed
  | missingSpec (name : String)
  | negativeReplicas (name : String) (replicas : Int32)
  deriving DecidableEq, Inhabited

def ExpansionError.message : ExpansionError → String
  | unnamed => "StatefulSet has no name"
  | missingSpec name => s!"StatefulSet '{name}' has no spec"
  | negativeReplicas name replicas =>
    s!"StatefulSet '{name}' has negative replicas: " ++ Decimal.intText replicas.toInt

def podName (set : String) (ordinal : Nat) : String := set ++ "-" ++ Decimal.text ordinal

/-- The pod with an ordinal. Its own name goes under `label`, whatever the template has there. -/
def pod (set : StatefulSet) (spec : StatefulSetSpec) (name label : String) (ordinal : Nat) : Pod :=
  let template := spec.template.metadata.getD {}
  { metadata := {
      name := some (podName name ordinal)
      namespaceName := set.metadata.namespaceName
      labels := some ((template.labels.getD ∅).insert label (podName name ordinal))
      annotations := template.annotations }
    spec := spec.template.spec }

def replicaCount (name : String) (spec : StatefulSetSpec) (replicas : Option UInt32) :
    Except ExpansionError Nat :=
  match replicas with
  | some replicas => .ok replicas.toNat
  | none =>
    let declared := spec.replicas.getD 1
    if declared < 0 then .error (.negativeReplicas name declared) else .ok declared.toInt.toNat

def pods (set : StatefulSet) (replicas : Option UInt32) (label : String) :
    Except ExpansionError (List Pod) :=
  match set.metadata.name.filter (!·.isEmpty) with
  | none => .error .unnamed
  | some name =>
    match set.spec with
    | none => .error (.missingSpec name)
    | some spec => do
      let count ← replicaCount name spec replicas
      return (List.range count).map (pod set spec name label)

end OrdinalAdmission.Manifest
