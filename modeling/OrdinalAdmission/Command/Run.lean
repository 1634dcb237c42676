import OrdinalAdmission.Command.Arguments
import OrdinalAdmission.Command.Failure
import OrdinalAdmission.Config.File
import OrdinalAdmission.Config.Override
import OrdinalAdmission.Kube.Kubeconfig
import OrdinalAdmission.Manifest.Reader
import OrdinalAdmission.Preview.Table

/-!
# Running a command

A command settles its configuration first, then reads its object, and only then writes: what was
found goes to the standard output, and remarks on it to the standard error stream, where log lines
may stand besides, which `Report.remarks` leaves out.
-/

namespace OrdinalAdmission.Command

open Kube

structure Report where
  output : String := ""
  remarks : String := ""
  failure : Option Failure := none
  deriving DecidableEq, Inhabited

-- ---------------------------------------------------------------------------
-- Configuration
-- ---------------------------------------------------------------------------

def readConfig (environment : Environment) (path : String) : Except Failure Config := do
  let source ← (environment.file path).mapError (.unreadableConfig path)
  match Config.ofToml? source with
  | some config => return config
  | none => throw .malformedConfig

/-- The configuration that stands in a file: the one that is named, else the one that the
environment names, else the default one if it is there, else none. -/
def storedConfig (environment : Environment) (input : Input) : Except Failure Config :=
  match input.configFile <|> environment.configVariable.filter (!·.isEmpty) with
  | some path => readConfig environment path
  | none =>
    match environment.file defaultConfigFile with
    | .error fault => if fault.isAbsence then .ok {} else readConfig environment defaultConfigFile
    | .ok _ => readConfig environment defaultConfigFile

/-- The stored configuration with the properties over it; it has to be valid. -/
def config (environment : Environment) (input : Input) : Except Failure Config := do
  let stored ← storedConfig environment input
  let overrides ← (Config.Override.parse input.properties).mapError .invalidConfig
  let config := Config.Override.apply overrides stored
  config.validate.mapError .invalidConfig
  return config

def pipeline (config : Config) : Except Failure Pipeline :=
  config.pipeline.mapError .invalidConfig

-- ---------------------------------------------------------------------------
-- Objects
-- ---------------------------------------------------------------------------

def readManifest {α : Type} (codec : Codec α) (environment : Environment) (path : String) :
    Except Failure α :=
  let path := environment.absolute path
  match environment.file path with
  | .error fault =>
    .error (if fault.isAbsence then .missingManifest path else .unreadableManifest path fault)
  | .ok source =>
    match Manifest.parse? codec source with
    | some value => .ok value
    | none => .error (.malformedManifest path)

def clusterFault (environment : Environment) (input : Input) : ClusterFault :=
  if input.kubeconfig.isNone && input.context.isNone then .noClient
  else
    let kubeconfig := do
      let source ← (environment.file (← input.kubeconfig <|> environment.kubeconfig)).toOption
      Manifest.parse? Kubeconfig.codec source
    match kubeconfig with
    | none => .unreadableKubeconfig
    | some kubeconfig =>
      if (kubeconfig.server? input.context).isNone then .unusableContext else .noClient

def askCluster {α : Type} (environment : Environment) (input : Input) (kind name : String)
    (get : Cluster → (namespaceName name : String) → Except ApiFault α) : Except Failure α :=
  match environment.connect input.kubeconfig input.context with
  | none => .error (.cluster (clusterFault environment input))
  | some cluster =>
    (get cluster input.namespaceName name).mapError fun fault =>
      .cluster (.ofApi kind name input.namespaceName fault)

def askedName (naming : Flag) (input : Input) : Except Failure String :=
  match input.source.name? with
  | some name => .ok name
  | none => .error (.cluster (.nameless naming))

def readPod (environment : Environment) (input : Input) : Except Failure Pod :=
  match input.source.path? with
  | some path => do
    let pod ← readManifest Pod.codec environment path
    if pod.spec.isNone then throw (.podWithoutSpec path)
    return pod
  | none => do
    let name ← askedName .pod input
    askCluster environment input "Pod" name Cluster.pod

def readStatefulSet (environment : Environment) (input : Input) : Except Failure StatefulSet :=
  match input.source.path? with
  | some path => readManifest StatefulSet.codec environment path
  | none => do
    let name ← askedName .statefulSet input
    askCluster environment input "StatefulSet" name Cluster.statefulSet

-- ---------------------------------------------------------------------------
-- Subcommands
-- ---------------------------------------------------------------------------

def summary (coloured : Bool) (pod : Pod) (outcome : Outcome) : String :=
  let status := Preview.Status.ofOutcome outcome
  let text := match outcome with
    | .notStatefulSet reason =>
      pod.metadata.name.getD "<unnamed>" ++ ": skipped (" ++ reason.message ++ ")"
    | .mutated identity _ [] =>
      identity.podName ++ ": no annotations apply to ordinal " ++
        Decimal.text identity.ordinal.toNat
    | .mutated identity _ applied =>
      identity.podName ++ ": applied " ++ ", ".intercalate (applied.map (·.name))
    | .failed identity feature error =>
      identity.podName ++ ": " ++ feature.name ++ " failed: " ++ error.message
  Text.paint coloured status.colour status.icon ++ " " ++ text ++ "\n"

def unmodifiedNote (coloured : Bool) : String :=
  Text.paint coloured .yellow "Pod would be admitted unmodified" ++ "\n"

/-- What is written about an outcome; where it counts as a failure, nothing but the summary. -/
def reportOutcome (coloured : Bool) (output : OutputFormat) (strict : Bool) (pod : Pod)
    (outcome : Outcome) : Report :=
  let line := summary coloured pod outcome
  let text := output.render pod (outcome.admitted pod) ++ "\n"
  match outcome with
  | .failed _ feature error =>
    if strict then { remarks := line, failure := some (.featureFailed feature error) }
    else { output := text, remarks := line ++ unmodifiedNote coloured }
  | .notStatefulSet _ | .mutated .. => { output := text, remarks := line }

def runMutate (environment : Environment) (input : Input) (output : OutputFormat)
    (strict : Bool) : Except Failure Report := do
  let pipeline ← pipeline (← config environment input)
  let pod ← readPod environment input
  return reportOutcome environment.coloured output strict pod (pipeline.run pod)

def runPreview (environment : Environment) (input : Input) (replicas : Option UInt32) :
    Except Failure Report := do
  let config ← config environment input
  let pipeline ← pipeline config
  let set ← readStatefulSet environment input
  let pods ← (Manifest.pods set replicas config.label).mapError .noPods
  let namespaceName := set.metadata.namespaceName.getD input.namespaceName
  let table := Preview.render environment.coloured (set.metadata.name.getD "") namespaceName
    (Preview.rows pipeline pods)
  return { output := table ++ "\n" }

def run (environment : Environment) (command : Command) : Report :=
  let report := match command with
    | .mutate input output strict => runMutate environment input output strict
    | .preview input replicas => runPreview environment input replicas
  match report with
  | .ok report => report
  | .error failure => { failure := some failure }

def paths (environment : Environment) (command : Command) : List String :=
  let input := command.input
  let manifest := (input.source.path?.map environment.absolute).toList
  input.configFile.toList ++ environment.configVariable.toList ++ [defaultConfigFile] ++ manifest ++
    input.kubeconfig.toList ++ environment.kubeconfig.toList

end OrdinalAdmission.Command
