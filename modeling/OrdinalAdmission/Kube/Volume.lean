import OrdinalAdmission.Codec

/-!
# Volumes

A volume names one source; nothing keeps a manifest from giving several, and all of them are kept.
-/

namespace OrdinalAdmission.Kube

structure KeyToPath where
  key : String := ""
  mode : Option Int32 := none
  path : String := ""
  deriving DecidableEq, Inhabited

def KeyToPath.codec : Codec KeyToPath :=
  .object {} [
    .defaulted "key" .text "" (·.key) fun v i => { i with key := v },
    .optional "mode" .int32 (·.mode) fun v i => { i with mode := v },
    .defaulted "path" .text "" (·.path) fun v i => { i with path := v }]

structure ConfigMapSource where
  defaultMode : Option Int32 := none
  items : Option (List KeyToPath) := none
  name : String := ""
  optional : Option Bool := none
  deriving DecidableEq, Inhabited

def ConfigMapSource.codec : Codec ConfigMapSource :=
  .object {} [
    .optional "defaultMode" .int32 (·.defaultMode) fun v s => { s with defaultMode := v },
    .optional "items" (.list KeyToPath.codec) (·.items) fun v s => { s with items := v },
    .defaulted "name" .text "" (·.name) fun v s => { s with name := v },
    .optional "optional" .bool (·.optional) fun v s => { s with optional := v }]

structure EmptyDirSource where
  medium : Option String := none
  sizeLimit : Option String := none
  deriving DecidableEq, Inhabited

def EmptyDirSource.codec : Codec EmptyDirSource :=
  .object {} [
    .optional "medium" .text (·.medium) fun v s => { s with medium := v },
    .optional "sizeLimit" .text (·.sizeLimit) fun v s => { s with sizeLimit := v }]

structure HostPathSource where
  path : String := ""
  pathType : Option String := none
  deriving DecidableEq, Inhabited

def HostPathSource.codec : Codec HostPathSource :=
  .object {} [
    .defaulted "path" .text "" (·.path) fun v s => { s with path := v },
    .optional "type" .text (·.pathType) fun v s => { s with pathType := v }]

structure ClaimSource where
  claimName : String := ""
  readOnly : Option Bool := none
  deriving DecidableEq, Inhabited

def ClaimSource.codec : Codec ClaimSource :=
  .object {} [
    .defaulted "claimName" .text "" (·.claimName) fun v s => { s with claimName := v },
    .optional "readOnly" .bool (·.readOnly) fun v s => { s with readOnly := v }]

structure ProjectedReference where
  items : Option (List KeyToPath) := none
  name : String := ""
  optional : Option Bool := none
  deriving DecidableEq, Inhabited

def ProjectedReference.codec : Codec ProjectedReference :=
  .object {} [
    .optional "items" (.list KeyToPath.codec) (·.items) fun v s => { s with items := v },
    .defaulted "name" .text "" (·.name) fun v s => { s with name := v },
    .optional "optional" .bool (·.optional) fun v s => { s with optional := v }]

structure Projection where
  configMap : Option ProjectedReference := none
  secret : Option ProjectedReference := none
  deriving DecidableEq, Inhabited

def Projection.codec : Codec Projection :=
  .object {} [
    .optional "configMap" ProjectedReference.codec (·.configMap)
      fun v s => { s with configMap := v },
    .optional "secret" ProjectedReference.codec (·.secret) fun v s => { s with secret := v }]

structure ProjectedSource where
  defaultMode : Option Int32 := none
  sources : Option (List Projection) := none
  deriving DecidableEq, Inhabited

def ProjectedSource.codec : Codec ProjectedSource :=
  .object {} [
    .optional "defaultMode" .int32 (·.defaultMode) fun v s => { s with defaultMode := v },
    .optional "sources" (.list Projection.codec) (·.sources) fun v s => { s with sources := v }]

structure SecretSource where
  defaultMode : Option Int32 := none
  items : Option (List KeyToPath) := none
  optional : Option Bool := none
  secretName : Option String := none
  deriving DecidableEq, Inhabited

def SecretSource.codec : Codec SecretSource :=
  .object {} [
    .optional "defaultMode" .int32 (·.defaultMode) fun v s => { s with defaultMode := v },
    .optional "items" (.list KeyToPath.codec) (·.items) fun v s => { s with items := v },
    .optional "optional" .bool (·.optional) fun v s => { s with optional := v },
    .optional "secretName" .text (·.secretName) fun v s => { s with secretName := v }]

structure Volume where
  configMap : Option ConfigMapSource := none
  emptyDir : Option EmptyDirSource := none
  hostPath : Option HostPathSource := none
  name : String := ""
  persistentVolumeClaim : Option ClaimSource := none
  projected : Option ProjectedSource := none
  secret : Option SecretSource := none
  deriving DecidableEq, Inhabited

def Volume.codec : Codec Volume :=
  .object {} [
    .optional "configMap" ConfigMapSource.codec (·.configMap) fun v s => { s with configMap := v },
    .optional "emptyDir" EmptyDirSource.codec (·.emptyDir) fun v s => { s with emptyDir := v },
    .optional "hostPath" HostPathSource.codec (·.hostPath) fun v s => { s with hostPath := v },
    .defaulted "name" .text "" (·.name) fun v s => { s with name := v },
    .optional "persistentVolumeClaim" ClaimSource.codec (·.persistentVolumeClaim)
      fun v s => { s with persistentVolumeClaim := v },
    .optional "projected" ProjectedSource.codec (·.projected) fun v s => { s with projected := v },
    .optional "secret" SecretSource.codec (·.secret) fun v s => { s with secret := v }]

end OrdinalAdmission.Kube
