import OrdinalAdmission.Command.FileTree
import OrdinalAdmission.Main
import OrdinalAdmission.Patch.Apply
import OrdinalAdmission.Proofs.Container
import OrdinalAdmission.Proofs.Reshape
import OrdinalAdmission.Proofs.Failure
import OrdinalAdmission.Proofs.Order
import OrdinalAdmission.Proofs.Canonical
import OrdinalAdmission.Proofs.RoundTrip
import OrdinalAdmission.Proofs.AdmissionPatch
import OrdinalAdmission.Proofs.Frame
import OrdinalAdmission.Proofs.Placing
import OrdinalAdmission.Proofs.Distinct
import OrdinalAdmission.Proofs.Collection
import OrdinalAdmission.Proofs.Influence
import OrdinalAdmission.Proofs.Demand
import OrdinalAdmission.Proofs.Readmission
import OrdinalAdmission.Proofs.Paired
import OrdinalAdmission.Proofs.Bindings
import OrdinalAdmission.Proofs.Replicas
import OrdinalAdmission.Proofs.Conflict
import OrdinalAdmission.Proofs.Announcement
import OrdinalAdmission.Proofs.Expansion
import OrdinalAdmission.Proofs.SoleAnnotation
import OrdinalAdmission.Proofs.Changes
import OrdinalAdmission.Proofs.PatchShape
import OrdinalAdmission.Proofs.Reporting
import OrdinalAdmission.Proofs.Dressing
import OrdinalAdmission.Proofs.Furnishing
import OrdinalAdmission.Proofs.References
import OrdinalAdmission.Proofs.Serving
import OrdinalAdmission.Proofs.PodName
import OrdinalAdmission.Proofs.Keeping
import OrdinalAdmission.Proofs.QualifierText
import OrdinalAdmission.Proofs.Overrides
import OrdinalAdmission.Proofs.Stopping
import OrdinalAdmission.Proofs.Declaration
import OrdinalAdmission.Proofs.CommandLine
import OrdinalAdmission.Proofs.OneSource
