import OrdinalAdmission.Patch.Admission
import OrdinalAdmission.Proofs.Faithful
import OrdinalAdmission.Proofs.PatchText
import OrdinalAdmission.Proofs.RoundTrip

/-!
# The patch of an admission does what it is sent for

A pod is written as a canonical document that determines it, so what holds of the patch between two
documents holds of the patch between two pods.
-/

namespace OrdinalAdmission.Patch

open Kube

/-- The patch between two pods reads back from its written form, every operation of it can be
carried out where it stands, all of them lead from the one pod's document to the other's, and there
is none exactly when the pods are the same. -/
theorem ofPods_round_trip (requested admitted : Pod) :
    decode? (encode (ofPods requested admitted)) = some (ofPods requested admitted) ∧
      apply (ofPods requested admitted) (Pod.codec.encode requested) =
        some (Pod.codec.encode admitted) ∧
      (ofPods requested admitted = [] ↔ requested = admitted) := by
  have hfaithful := Pod.codec_faithful
  refine ⟨decode?_encode _, ?_, ?_⟩
  · exact apply_diff (hfaithful.canonical requested) (hfaithful.canonical admitted)
  · exact (diff_eq_nil_iff (hfaithful.canonical requested) (hfaithful.canonical admitted)).trans
      hfaithful.encode_inj

end OrdinalAdmission.Patch
