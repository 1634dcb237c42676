import OrdinalAdmission.Decimal.Numeral
import OrdinalAdmission.Pipeline
import OrdinalAdmission.Text.Colour

/-!
# What a preview tells about a pod

A row sums up what admission would do to one pod: the features that take effect, the host ports of
the admitted pod, the volumes it gains, and whether anything went wrong.
-/

namespace OrdinalAdmission.Preview

open Kube

inductive Status where
  | mutated
  | unchanged
  /-- The pod would be admitted as it is, because a feature failed. -/
  | failed (detail : String)
  | skipped (detail : String)
  deriving DecidableEq, Repr, Inhabited

namespace Status

def label : Status → String
  | mutated => "Mutated"
  | unchanged => "Unchanged"
  | failed _ => "Failed"
  | skipped _ => "Skipped"

def icon : Status → String
  | mutated => "✓"
  | unchanged => "·"
  | failed _ => "✗"
  | skipped _ => "?"

def colour : Status → Text.Colour
  | mutated => .green
  | unchanged => .brightBlack
  | failed _ => .red
  | skipped _ => .yellow

def detail? : Status → Option String
  | failed detail | skipped detail => some detail
  | mutated | unchanged => none

def ofOutcome : Outcome → Status
  | .notStatefulSet reason => skipped reason.message
  | .failed _ feature error => failed (feature.name ++ ": " ++ error.message)
  | .mutated _ _ applied => if applied.isEmpty then unchanged else mutated

end Status

structure Row where
  pod : String
  ordinal : Option UInt32
  applied : List String
  hostPorts : List String
  volumes : List String
  status : Status
  deriving DecidableEq, Repr, Inhabited

/-- A port that is bound on the host: `<container>/<port name>=<host port>`. -/
def describePort (container : Container) (port : ContainerPort) : Option String :=
  port.hostPort.map fun hostPort =>
    container.name ++ "/" ++ port.name.getD "-" ++ "=" ++ Decimal.intText hostPort.toInt

def hostPorts (pod : Pod) : List String :=
  match pod.spec with
  | none => []
  | some spec => spec.containers.flatMap fun container =>
      (container.ports.getD []).filterMap (describePort container)

def describeVolume (volume : Volume) : String :=
  match volume.configMap, volume.secret.bind (·.secretName) with
  | some configMap, _ => volume.name ++ "=configmap/" ++ configMap.name
  | none, some secretName => volume.name ++ "=secret/" ++ secretName
  | none, none => volume.name

def volumes (pod : Pod) : List Volume := (pod.spec.bind (·.volumes)).getD []

/-- The volumes that `admitted` has beyond those of `requested`; volumes are only ever appended. -/
def addedVolumes (requested admitted : Pod) : List String :=
  ((volumes admitted).drop (volumes requested).length).map describeVolume

def row (requested : Pod) (outcome : Outcome) : Row where
  pod := requested.metadata.name.getD ""
  ordinal := outcome.identity?.map (·.ordinal)
  applied := outcome.applied.map (·.name)
  hostPorts := hostPorts (outcome.admitted requested)
  volumes := addedVolumes requested (outcome.admitted requested)
  status := .ofOutcome outcome

def rows (pipeline : Pipeline) (pods : List Pod) : List Row :=
  pods.map fun pod => row pod (pipeline.run pod)

end OrdinalAdmission.Preview
