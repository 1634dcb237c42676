import OrdinalAdmission.Json.Printer
import OrdinalAdmission.Patch.Admission
import OrdinalAdmission.Yaml.Printer

/-!
# How an admitted pod is printed
-/

namespace OrdinalAdmission.Command

inductive OutputFormat where
  | yaml
  | json
  | patch
  deriving DecidableEq, Repr, Inhabited

namespace OutputFormat

def ofName? : String → Option OutputFormat
  | "yaml" => some yaml
  | "json" => some json
  | "patch" => some patch
  | _ => none

def render (requested admitted : Kube.Pod) : OutputFormat → String
  | yaml => Yaml.render (Kube.Pod.codec.encode admitted)
  | json => (Kube.Pod.codec.encode admitted).pretty
  | patch => (Patch.encode (Patch.ofPods requested admitted)).pretty

end OutputFormat

end OrdinalAdmission.Command
