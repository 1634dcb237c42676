import OrdinalAdmission.Codec

/-!
# Containers

A container with its ports, environment and volume mounts. An absent list differs from an empty
one: only the latter is written.
-/

namespace OrdinalAdmission.Kube

structure ContainerPort where
  containerPort : Int32 := 0
  hostIP : Option String := none
  hostPort : Option Int32 := none
  name : Option String := none
  protocol : Option String := none
  deriving DecidableEq, Inhabited

def ContainerPort.codec : Codec ContainerPort :=
  .object {} [
    .defaulted "containerPort" .int32 0 (·.containerPort) fun v p => { p with containerPort := v },
    .optional "hostIP" .text (·.hostIP) fun v p => { p with hostIP := v },
    .optional "hostPort" .int32 (·.hostPort) fun v p => { p with hostPort := v },
    .optional "name" .text (·.name) fun v p => { p with name := v },
    .optional "protocol" .text (·.protocol) fun v p => { p with protocol := v }]

structure KeySelector where
  key : String := ""
  name : String := ""
  optional : Option Bool := none
  deriving DecidableEq, Inhabited

def KeySelector.codec : Codec KeySelector :=
  .object {} [
    .defaulted "key" .text "" (·.key) fun v s => { s with key := v },
    .defaulted "name" .text "" (·.name) fun v s => { s with name := v },
    .optional "optional" .bool (·.optional) fun v s => { s with optional := v }]

structure FieldSelector where
  apiVersion : Option String := none
  fieldPath : String := ""
  deriving DecidableEq, Inhabited

def FieldSelector.codec : Codec FieldSelector :=
  .object {} [
    .optional "apiVersion" .text (·.apiVersion) fun v s => { s with apiVersion := v },
    .defaulted "fieldPath" .text "" (·.fieldPath) fun v s => { s with fieldPath := v }]

structure EnvSource where
  configMapKeyRef : Option KeySelector := none
  fieldRef : Option FieldSelector := none
  secretKeyRef : Option KeySelector := none
  deriving DecidableEq, Inhabited

def EnvSource.codec : Codec EnvSource :=
  .object {} [
    .optional "configMapKeyRef" KeySelector.codec (·.configMapKeyRef)
      fun v s => { s with configMapKeyRef := v },
    .optional "fieldRef" FieldSelector.codec (·.fieldRef) fun v s => { s with fieldRef := v },
    .optional "secretKeyRef" KeySelector.codec (·.secretKeyRef)
      fun v s => { s with secretKeyRef := v }]

structure EnvVar where
  name : String := ""
  value : Option String := none
  valueFrom : Option EnvSource := none
  deriving DecidableEq, Inhabited

def EnvVar.codec : Codec EnvVar :=
  .object {} [
    .defaulted "name" .text "" (·.name) fun v e => { e with name := v },
    .optional "value" .text (·.value) fun v e => { e with value := v },
    .optional "valueFrom" EnvSource.codec (·.valueFrom) fun v e => { e with valueFrom := v }]

structure VolumeMount where
  mountPath : String := ""
  mountPropagation : Option String := none
  name : String := ""
  readOnly : Option Bool := none
  recursiveReadOnly : Option String := none
  subPath : Option String := none
  subPathExpr : Option String := none
  deriving DecidableEq, Inhabited

def VolumeMount.codec : Codec VolumeMount :=
  .object {} [
    .defaulted "mountPath" .text "" (·.mountPath) fun v m => { m with mountPath := v },
    .optional "mountPropagation" .text (·.mountPropagation)
      fun v m => { m with mountPropagation := v },
    .defaulted "name" .text "" (·.name) fun v m => { m with name := v },
    .optional "readOnly" .bool (·.readOnly) fun v m => { m with readOnly := v },
    .optional "recursiveReadOnly" .text (·.recursiveReadOnly)
      fun v m => { m with recursiveReadOnly := v },
    .optional "subPath" .text (·.subPath) fun v m => { m with subPath := v },
    .optional "subPathExpr" .text (·.subPathExpr) fun v m => { m with subPathExpr := v }]

/-- Quantities are kept as the texts they were written as. -/
structure Resources where
  limits : Option TextMap := none
  requests : Option TextMap := none
  deriving DecidableEq, Inhabited

def Resources.codec : Codec Resources :=
  .object {} [
    .optional "limits" .textMap (·.limits) fun v r => { r with limits := v },
    .optional "requests" .textMap (·.requests) fun v r => { r with requests := v }]

structure Container where
  args : Option (List String) := none
  command : Option (List String) := none
  env : Option (List EnvVar) := none
  image : Option String := none
  name : String := ""
  ports : Option (List ContainerPort) := none
  resources : Option Resources := none
  tty : Option Bool := none
  volumeMounts : Option (List VolumeMount) := none
  workingDir : Option String := none
  deriving DecidableEq, Inhabited

def Container.codec : Codec Container :=
  .object {} [
    .optional "args" (.list .text) (·.args) fun v c => { c with args := v },
    .optional "command" (.list .text) (·.command) fun v c => { c with command := v },
    .optional "env" (.list EnvVar.codec) (·.env) fun v c => { c with env := v },
    .optional "image" .text (·.image) fun v c => { c with image := v },
    .defaulted "name" .text "" (·.name) fun v c => { c with name := v },
    .optional "ports" (.list ContainerPort.codec) (·.ports) fun v c => { c with ports := v },
    .optional "resources" Resources.codec (·.resources) fun v c => { c with resources := v },
    .optional "tty" .bool (·.tty) fun v c => { c with tty := v },
    .optional "volumeMounts" (.list VolumeMount.codec) (·.volumeMounts)
      fun v c => { c with volumeMounts := v },
    .optional "workingDir" .text (·.workingDir) fun v c => { c with workingDir := v }]

end OrdinalAdmission.Kube
