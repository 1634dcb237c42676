import OrdinalAdmission.Kube.Container
import OrdinalAdmission.Kube.Metadata
import OrdinalAdmission.Kube.Volume

/-!
# Pods
-/

namespace OrdinalAdmission.Kube

structure PodSpec where
  containers : List Container := []
  hostNetwork : Option Bool := none
  hostname : Option String := none
  initContainers : Option (List Container) := none
  nodeSelector : Option TextMap := none
  restartPolicy : Option String := none
  terminationGracePeriodSeconds : Option Int64 := none
  volumes : Option (List Volume) := none
  deriving DecidableEq, Inhabited

def PodSpec.codec : Codec PodSpec :=
  .object {} [
    .defaulted "containers" (.list Container.codec) [] (·.containers)
      fun v s => { s with containers := v },
    .optional "hostNetwork" .bool (·.hostNetwork) fun v s => { s with hostNetwork := v },
    .optional "hostname" .text (·.hostname) fun v s => { s with hostname := v },
    .optional "initContainers" (.list Container.codec) (·.initContainers)
      fun v s => { s with initContainers := v },
    .optional "nodeSelector" .textMap (·.nodeSelector) fun v s => { s with nodeSelector := v },
    .optional "restartPolicy" .text (·.restartPolicy) fun v s => { s with restartPolicy := v },
    .optional "terminationGracePeriodSeconds" .int64 (·.terminationGracePeriodSeconds)
      fun v s => { s with terminationGracePeriodSeconds := v },
    .optional "volumes" (.list Volume.codec) (·.volumes) fun v s => { s with volumes := v }]

structure Pod where
  metadata : Metadata := {}
  spec : Option PodSpec := none
  deriving DecidableEq, Inhabited

def Pod.codec : Codec Pod :=
  .object {} [
    .fixed "apiVersion" "v1",
    .fixed "kind" "Pod",
    .defaulted "metadata" Metadata.codec {} (·.metadata) fun v p => { p with metadata := v },
    .optional "spec" PodSpec.codec (·.spec) fun v p => { p with spec := v }]

end OrdinalAdmission.Kube
