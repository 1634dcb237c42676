import OrdinalAdmission.Kube.Pod
import OrdinalAdmission.Kube.StatefulSet

/-!
# Asking a cluster

A cluster is what it answers: the object of a name in a namespace, or why it gives none.
-/

namespace OrdinalAdmission.Command

structure ApiFault where
  /-- The status of the answer, where the cluster gave one. -/
  status : Option UInt16 := none
  message : String
  deriving DecidableEq, Repr, Inhabited

structure Cluster where
  pod : (namespaceName name : String) → Except ApiFault Kube.Pod
  statefulSet : (namespaceName name : String) → Except ApiFault Kube.StatefulSet

end OrdinalAdmission.Command
