import OrdinalAdmission.Feature.HostPort
import OrdinalAdmission.Feature.MountVolume

/-!
# Applying a feature to a pod

A feature is applied when an annotation declares it and its qualifier lets the pod's ordinal in.
What a feature that stops with an error left behind is part of the answer.
-/

namespace OrdinalAdmission

inductive Effect where
  | notConfigured
  | excluded
  | applied
  deriving DecidableEq, Repr, Inhabited

namespace Feature

open Kube

def applyDeclared {α : Type} (declared : Except MutationError (Option (Qualified α)))
    (work : Qualified α → PodSpec → PodSpec × Option MutationError) (ordinal : UInt32)
    (spec : PodSpec) : PodSpec × Except MutationError Effect :=
  match declared with
  | .error error => (spec, .error error)
  | .ok none => (spec, .ok .notConfigured)
  | .ok (some config) =>
    if config.appliesTo ordinal then
      match work config spec with
      | (left, none) => (left, .ok .applied)
      | (left, some error) => (left, .error error)
    else (spec, .ok .excluded)

/-- The spec that is left, with the effect or the error. -/
def apply (feature : Feature) (annotations : Annotations.Collection) (ordinal : UInt32)
    (spec : PodSpec) : PodSpec × Except MutationError Effect :=
  match feature with
  | hostPort =>
    applyDeclared (HostPort.declared? annotations) (fun config => HostPort.mutate config ordinal)
      ordinal spec
  | mountVolume =>
    applyDeclared (MountVolume.declared? annotations)
      (fun config spec => (MountVolume.mutate config ordinal spec, none)) ordinal spec

end Feature

end OrdinalAdmission
