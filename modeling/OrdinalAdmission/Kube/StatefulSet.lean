import OrdinalAdmission.Kube.Pod

/-!
# StatefulSets
-/

namespace OrdinalAdmission.Kube

structure Selector where
  matchLabels : Option TextMap := none
  deriving DecidableEq, Inhabited

def Selector.codec : Codec Selector :=
  .object {} [
    .optional "matchLabels" .textMap (·.matchLabels) fun v s => { s with matchLabels := v }]

structure PodTemplate where
  metadata : Option Metadata := none
  spec : Option PodSpec := none
  deriving DecidableEq, Inhabited

def PodTemplate.codec : Codec PodTemplate :=
  .object {} [
    .optional "metadata" Metadata.codec (·.metadata) fun v t => { t with metadata := v },
    .optional "spec" PodSpec.codec (·.spec) fun v t => { t with spec := v }]

structure StartOrdinal where
  start : Option Int32 := none
  deriving DecidableEq, Inhabited

def StartOrdinal.codec : Codec StartOrdinal :=
  .object {} [.optional "start" .int32 (·.start) fun v o => { o with start := v }]

structure StatefulSetSpec where
  minReadySeconds : Option Int32 := none
  ordinals : Option StartOrdinal := none
  podManagementPolicy : Option String := none
  replicas : Option Int32 := none
  selector : Selector := {}
  serviceName : String := ""
  template : PodTemplate := {}
  deriving DecidableEq, Inhabited

def StatefulSetSpec.codec : Codec StatefulSetSpec :=
  .object {} [
    .optional "minReadySeconds" .int32 (·.minReadySeconds)
      fun v s => { s with minReadySeconds := v },
    .optional "ordinals" StartOrdinal.codec (·.ordinals) fun v s => { s with ordinals := v },
    .optional "podManagementPolicy" .text (·.podManagementPolicy)
      fun v s => { s with podManagementPolicy := v },
    .optional "replicas" .int32 (·.replicas) fun v s => { s with replicas := v },
    .defaulted "selector" Selector.codec {} (·.selector) fun v s => { s with selector := v },
    .defaulted "serviceName" .text "" (·.serviceName) fun v s => { s with serviceName := v },
    .defaulted "template" PodTemplate.codec {} (·.template) fun v s => { s with template := v }]

structure StatefulSet where
  metadata : Metadata := {}
  spec : Option StatefulSetSpec := none
  deriving DecidableEq, Inhabited

def StatefulSet.codec : Codec StatefulSet :=
  .object {} [
    .fixed "apiVersion" "apps/v1",
    .fixed "kind" "StatefulSet",
    .defaulted "metadata" Metadata.codec {} (·.metadata) fun v s => { s with metadata := v },
    .optional "spec" StatefulSetSpec.codec (·.spec) fun v s => { s with spec := v }]

end OrdinalAdmission.Kube
