import OrdinalAdmission.Kube.Pod
import OrdinalAdmission.Patch.Diff

/-!
# The patch of an admission

An admission answers with the patch that turns the pod it was asked for into the pod it admits.
-/

namespace OrdinalAdmission.Patch

def ofPods (requested admitted : Kube.Pod) : List Operation :=
  diff [] (Kube.Pod.codec.encode requested) (Kube.Pod.codec.encode admitted)

end OrdinalAdmission.Patch
