import OrdinalAdmission.Codec
import OrdinalAdmission.Yaml.Document

/-!
# Reading manifests

A manifest is a YAML document, and since JSON is YAML it may be JSON as well.
-/

namespace OrdinalAdmission.Manifest

/-- The object that a text describes; `none` if it is no YAML or describes something else. -/
def parse? {α : Type} (codec : Codec α) (source : String) : Option α := do
  codec.ofNode? (← Yaml.parse? source)

end OrdinalAdmission.Manifest
