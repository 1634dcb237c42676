import OrdinalAdmission.Codec

/-!
# Object metadata

The part of an object's metadata that admission reads or that a StatefulSet's pods carry.
-/

namespace OrdinalAdmission.Kube

structure Metadata where
  annotations : Option TextMap := none
  generateName : Option String := none
  labels : Option TextMap := none
  name : Option String := none
  namespaceName : Option String := none
  uid : Option String := none
  deriving DecidableEq, Inhabited

def Metadata.codec : Codec Metadata :=
  .object {} [
    .optional "annotations" .textMap (·.annotations) fun v m => { m with annotations := v },
    .optional "generateName" .text (·.generateName) fun v m => { m with generateName := v },
    .optional "labels" .textMap (·.labels) fun v m => { m with labels := v },
    .optional "name" .text (·.name) fun v m => { m with name := v },
    .optional "namespace" .text (·.namespaceName) fun v m => { m with namespaceName := v },
    .optional "uid" .text (·.uid) fun v m => { m with uid := v }]

end OrdinalAdmission.Kube
