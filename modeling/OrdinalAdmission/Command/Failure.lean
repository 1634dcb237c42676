import OrdinalAdmission.Command.Environment
import OrdinalAdmission.Command.Flag
import OrdinalAdmission.Config.Basic
import OrdinalAdmission.Manifest.Expansion

/-!
# Why a command fails
-/

namespace OrdinalAdmission.Command

inductive ClusterFault where
  /-- There is no name to ask for; the option would give one. -/
  | nameless (naming : Flag)
  | unreadableKubeconfig
  | unusableContext
  | noClient
  | noObject (kind name namespaceName : String)
  | refused (message : String)
  deriving DecidableEq, Repr, Inhabited

namespace ClusterFault

def message : ClusterFault → String
  | nameless naming => "either --file or --" ++ naming.name?.getD "" ++ " is required"
  | unreadableKubeconfig =>
    "Kubernetes API error: Failed to load kubeconfig: the file is missing or malformed"
  | unusableContext =>
    "Kubernetes API error: Failed to create Kubernetes config: the context leads to no server"
  | noClient =>
    "Kubernetes API error: Failed to create Kubernetes client: no access to a cluster"
  | noObject kind name namespaceName =>
    s!"Resource not found: {kind} '{name}' in namespace '{namespaceName}'"
  | refused message => "Kubernetes API error: " ++ message

/-- Why asking for an object failed; only the status of an absent one is told apart. -/
def ofApi (kind name namespaceName : String) (fault : ApiFault) : ClusterFault :=
  if fault.status = some 404 then noObject kind name namespaceName else refused fault.message

end ClusterFault

inductive Failure where
  | invalidConfig (error : ConfigError)
  | unreadableConfig (path : String) (fault : FileFault)
  | malformedConfig
  | missingManifest (path : String)
  | unreadableManifest (path : String) (fault : FileFault)
  | malformedManifest (path : String)
  | podWithoutSpec (path : String)
  | noPods (error : Manifest.ExpansionError)
  | cluster (fault : ClusterFault)
  | featureFailed (feature : Feature) (error : MutationError)
  deriving DecidableEq, Inhabited

namespace Failure

def message : Failure → String
  | invalidConfig error => "Configuration error: " ++ error.message
  | unreadableConfig path fault =>
    s!"Configuration error: Failed to read config file {path}: {fault.message}"
  | malformedConfig => "TOML parse error: not a configuration"
  | missingManifest path => s!"Configuration error: Manifest file does not exist: {path}"
  | unreadableManifest path fault =>
    s!"Configuration error: Failed to read manifest file {path}: {fault.message}"
  | malformedManifest path =>
    s!"Invalid manifest: {path}: YAML parse error: not a manifest of the kind"
  | podWithoutSpec path => s!"Invalid manifest: Pod manifest {path} is missing spec section"
  | noPods error => "Invalid manifest: " ++ error.message
  | cluster fault => fault.message
  | featureFailed feature error => s!"{feature.name} handler failed: {error.message}"

end Failure

end OrdinalAdmission.Command
