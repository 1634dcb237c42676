import OrdinalAdmission.Annotations.Scheme
import OrdinalAdmission.Feature.Handler
import OrdinalAdmission.Identity

/-!
# Admission

A pipeline finds out which pod of which StatefulSet it is given, collects the pod's annotations and
applies its features one after the other. A feature that fails takes back everything: the pod is
then admitted as it came, and so is a pod that belongs to no StatefulSet.
-/

namespace OrdinalAdmission

open Kube

structure Pipeline where
  identifier : Identifier := .label podNameLabel
  scheme : Annotations.Scheme := .standard
  features : List Feature
  deriving Inhabited

inductive Outcome where
  | notStatefulSet (reason : IdentityError)
  | mutated (identity : Identity) (pod : Pod) (applied : List Feature)
  | failed (identity : Identity) (feature : Feature) (error : MutationError)
  deriving DecidableEq, Inhabited

namespace Outcome

def admitted (requested : Pod) : Outcome → Pod
  | mutated _ pod _ => pod
  | notStatefulSet _ | failed .. => requested

def identity? : Outcome → Option Identity
  | notStatefulSet _ => none
  | mutated identity .. | failed identity .. => some identity

def applied : Outcome → List Feature
  | mutated _ _ applied => applied
  | notStatefulSet _ | failed .. => []

def isFailed : Outcome → Bool
  | failed .. => true
  | notStatefulSet _ | mutated .. => false

end Outcome

namespace Pipeline

def standard : Pipeline := { features := Feature.standard }

/-- Applies `features` in order; the result holds the spec and the features that had an effect, or
the feature that failed. -/
def applyFeatures (annotations : Annotations.Collection) (ordinal : UInt32) :
    List Feature → PodSpec → Except (Feature × MutationError) (PodSpec × List Feature)
  | [], spec => .ok (spec, [])
  | feature :: rest, spec =>
    match feature.apply annotations ordinal spec with
    | (_, .error error) => .error (feature, error)
    | (spec, .ok effect) => do
      let (spec, applied) ← applyFeatures annotations ordinal rest spec
      return (spec, if effect = .applied then feature :: applied else applied)

def run (pipeline : Pipeline) (pod : Pod) : Outcome :=
  match pipeline.identifier.identify pod.metadata with
  | .error reason => .notStatefulSet reason
  | .ok identity =>
    match pod.spec with
    | none => .mutated identity pod []
    | some spec =>
      match applyFeatures (pipeline.scheme.collect pod.metadata) identity.ordinal
          pipeline.features spec with
      | .ok (spec, applied) => .mutated identity { pod with spec := some spec } applied
      | .error (feature, error) => .failed identity feature error

def admitted (pipeline : Pipeline) (pod : Pod) : Pod :=
  (pipeline.run pod).admitted pod

end Pipeline

end OrdinalAdmission
