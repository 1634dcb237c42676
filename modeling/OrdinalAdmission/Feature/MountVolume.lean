import OrdinalAdmission.Feature.Basic
import OrdinalAdmission.Kube.Pod

/-!
# Volumes per ordinal

The pod with ordinal `k` gets the declared volumes, with `-k` added to the name of every ConfigMap
and Secret they refer to, and the containers that the entries name get their mounts. Both are
appended to what the pod has, so applying a configuration twice adds everything twice.
-/

namespace OrdinalAdmission.MountVolume

open Kube

structure Entry where
  name : String := ""
  volumeMounts : List VolumeMount := []
  deriving DecidableEq, Inhabited

structure Config where
  volumes : List Volume := []
  containers : List Entry := []
  deriving DecidableEq, Inhabited

def Entry.codec : Codec Entry :=
  .configuration {} [
    .strict "name" true .text (·.name) fun v e => { e with name := v },
    .strict "volumeMounts" false (.list VolumeMount.codec) (·.volumeMounts)
      fun v e => { e with volumeMounts := v }]

def Config.codec : Codec Config :=
  .configuration {} [
    .strict "volumes" false (.list Volume.codec) (·.volumes) fun v c => { c with volumes := v },
    .strict "containers" false (.list Entry.codec) (·.containers)
      fun v c => { c with containers := v }]

/-- The reference that the pod with this ordinal uses; an empty name refers to nothing. -/
def ordinalName (ordinal : UInt32) (name : String) : String :=
  if name.isEmpty then name else name ++ "-" ++ Decimal.text ordinal.toNat

def qualifyVolume (ordinal : UInt32) (volume : Volume) : Volume :=
  { volume with
    configMap := volume.configMap.map fun source =>
      { source with name := ordinalName ordinal source.name }
    secret := volume.secret.map fun source =>
      { source with secretName := source.secretName.map (ordinalName ordinal) } }

def Entry.apply (entry : Entry) (containers : List Container) : List Container :=
  containers.map fun container =>
    if container.name = entry.name then
      { container with
        volumeMounts := some (container.volumeMounts.getD [] ++ entry.volumeMounts) }
    else container

def Config.apply (config : Config) (ordinal : UInt32) (spec : PodSpec) : PodSpec :=
  { spec with
    volumes := some (spec.volumes.getD [] ++ config.volumes.map (qualifyVolume ordinal))
    containers := config.containers.foldl (fun containers entry => entry.apply containers)
      spec.containers }

def mutate (config : Qualified Config) (ordinal : UInt32) (spec : PodSpec) : PodSpec :=
  if config.appliesTo ordinal then config.value.apply ordinal spec else spec

/-- A configuration without volumes counts as none. -/
def declared? (annotations : Annotations.Collection) :
    Except MutationError (Option (Qualified Config)) :=
  (Feature.mountVolume.declared? Config.codec annotations).map fun config =>
    config.filter fun config => !config.value.volumes.isEmpty

end OrdinalAdmission.MountVolume
