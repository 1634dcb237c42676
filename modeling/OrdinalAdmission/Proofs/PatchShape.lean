import OrdinalAdmission.Patch.Admission
import OrdinalAdmission.Proofs.Changes
import OrdinalAdmission.Proofs.Readmission

/-!
# The shape of an admission's patch

An admission extends lists at their ends, binds ports and tells variables; `PodShape` lists the
operations this takes, with the places they are for. The patch of an admission has no other
(`shape_of_admission`): nothing outside the spec, and nothing is removed but the source of a
variable that announces something.
-/

namespace OrdinalAdmission

open Kube
open Patch (Operation Extends memberOperations diff)

-- ---------------------------------------------------------------------------
-- What may be done
-- ---------------------------------------------------------------------------

inductive Sets (path : Pointer) : Operation → Prop where
  | add (value : Json) : Sets path (.add path value)
  | replace (value : Json) : Sets path (.replace path value)

theorem Sets.under {path : Pointer} {operation : Operation} (h : Sets path operation)
    (step : String) : Sets (step :: path) (operation.under step) := by
  cases h with
  | add value => exact .add value
  | replace value => exact .replace value

def AnnouncesAt (container : Container) (j : Nat) : Prop :=
  ∃ env assigned, container.env = some env ∧ env[j]? = some assigned ∧ Announces assigned.name

inductive ContainerShape (container : Container) : Operation → Prop where
  | volumeMounts {operation : Operation} :
      Extends "volumeMounts" container.volumeMounts operation → ContainerShape container operation
  | ports {operation : Operation} :
      Extends "ports" container.ports operation → ContainerShape container operation
  | env {operation : Operation} :
      Extends "env" container.env operation → ContainerShape container operation
  | hostPort (j : Nat) {operation : Operation} :
      Sets ["ports", Pointer.position j, "hostPort"] operation → ContainerShape container operation
  | value {j : Nat} {operation : Operation} : AnnouncesAt container j →
      Sets ["env", Pointer.position j, "value"] operation → ContainerShape container operation
  | valueFrom {j : Nat} : AnnouncesAt container j →
      ContainerShape container (.remove ["env", Pointer.position j, "valueFrom"])

/-- What an admission may do to a pod: all of it within the spec, to the list of volumes or to one
of the containers. -/
inductive PodShape (pod : Pod) : Operation → Prop where
  | volumes {spec : PodSpec} {operation : Operation} : pod.spec = some spec →
      Extends "volumes" spec.volumes operation → PodShape pod (operation.under "spec")
  | container {spec : PodSpec} {i : Nat} {container : Container} {operation : Operation} :
      pod.spec = some spec → spec.containers[i]? = some container →
      ContainerShape container operation →
      PodShape pod (((operation.under (Pointer.position i)).under "containers").under "spec")

-- ---------------------------------------------------------------------------
-- Ports and variables
-- ---------------------------------------------------------------------------

theorem sets_of_mem_memberOperations {key : String} {old : Option Json} {new : Json.Scalar}
    (hold : ∀ value, old = some value → ∃ scalar, value = .scalar scalar) {operation : Operation}
    (h : operation ∈ memberOperations key old (some (.scalar new))) : Sets [key] operation := by
  cases old with
  | none =>
    rw [List.mem_singleton.mp h]
    exact .add _
  | some value =>
    obtain ⟨scalar, rfl⟩ := hold value rfl
    obtain ⟨inner, hinner, rfl⟩ := List.mem_map.mp h
    simp only [diff] at hinner
    split at hinner
    · cases hinner
    · rw [List.mem_singleton.mp hinner]
      exact .replace _

def Rebound (old new : ContainerPort) : Prop :=
  new = old ∨ ∃ hostPort, new = { old with hostPort := some hostPort }

def Retold (old new : EnvVar) : Prop :=
  new = old ∨ Announces old.name ∧ ∃ value, new = { name := old.name, value := some value }

theorem Rebound.refl (port : ContainerPort) : Rebound port port := .inl rfl

theorem Rebound.trans {first second third : ContainerPort} (hone : Rebound first second)
    (htwo : Rebound second third) : Rebound first third := by
  rcases htwo with rfl | ⟨hostPort, rfl⟩
  · exact hone
  · rcases hone with rfl | ⟨_, rfl⟩
    · exact .inr ⟨hostPort, rfl⟩
    · exact .inr ⟨hostPort, rfl⟩

theorem Retold.refl (assigned : EnvVar) : Retold assigned assigned := .inl rfl

theorem Retold.trans {first second third : EnvVar} (hone : Retold first second)
    (htwo : Retold second third) : Retold first third := by
  rcases hone with rfl | ⟨hannounces, _, rfl⟩
  · exact htwo
  · rcases htwo with rfl | ⟨-, value, rfl⟩
    · exact .inr ⟨hannounces, _, rfl⟩
    · exact .inr ⟨hannounces, value, rfl⟩

theorem sets_of_rebound {old new : ContainerPort} (h : Rebound old new) {operation : Operation}
    (hoperation : operation ∈
      diff [] (ContainerPort.codec.encode old) (ContainerPort.codec.encode new)) :
    Sets ["hostPort"] operation := by
  obtain ⟨field, hf, hne, hoperation⟩ := Patch.mem_diff_object (by decide) (by simp) hoperation
  rcases h with rfl | ⟨hostPort, rfl⟩
  · exact absurd rfl hne
  · simp only [List.mem_cons, List.not_mem_nil, or_false] at hf
    rcases hf with rfl | rfl | rfl | rfl | rfl
    · exact absurd rfl hne
    · exact absurd rfl hne
    · refine sets_of_mem_memberOperations (fun value hvalue => ?_) hoperation
      obtain ⟨hostPort, -, rfl⟩ := Option.map_eq_some_iff.mp hvalue
      exact ⟨_, rfl⟩
    · exact absurd rfl hne
    · exact absurd rfl hne

theorem operations_of_retold {old new : EnvVar} (h : Retold old new) {operation : Operation}
    (hoperation : operation ∈ diff [] (EnvVar.codec.encode old) (EnvVar.codec.encode new)) :
    Announces old.name ∧ (Sets ["value"] operation ∨ operation = .remove ["valueFrom"]) := by
  obtain ⟨field, hf, hne, hoperation⟩ := Patch.mem_diff_object (by decide) (by simp) hoperation
  rcases h with rfl | ⟨hannounces, value, rfl⟩
  · exact absurd rfl hne
  · refine ⟨hannounces, ?_⟩
    simp only [List.mem_cons, List.not_mem_nil, or_false] at hf
    rcases hf with rfl | rfl | rfl
    · exact absurd rfl hne
    · refine .inl (sets_of_mem_memberOperations (fun value hvalue => ?_) hoperation)
      obtain ⟨text, -, rfl⟩ := Option.map_eq_some_iff.mp hvalue
      exact ⟨_, rfl⟩
    · -- The new variable has no source, so one that is written differently had one.
      right
      cases hsource : old.valueFrom with
      | none => exact absurd (by simp [Codec.Field.optional, hsource]) hne
      | some source =>
        simp only [Codec.Field.optional, hsource, Option.map_some, Option.map_none,
          memberOperations, List.mem_singleton] at hoperation
        exact hoperation

-- ---------------------------------------------------------------------------
-- Containers
-- ---------------------------------------------------------------------------

namespace Demand

variable (demand : Demand) (ordinal : UInt32) (container : Container)

theorem ports_outfit :
    Stays (AtPositions Rebound) container.ports (demand.outfit ordinal container).ports := by
  refine stays_updates (.refl .refl) (.trans .trans) (fun binding _ ports => ?_) container.ports
  rw [HostPort.bindIn_eq_place]
  exact HostPort.portPlacing.atPositions_place Rebound.refl (fun _ _ => .inr ⟨_, rfl⟩) ports

theorem env_outfit :
    Stays (AtPositions Retold) container.env (demand.outfit ordinal container).env := by
  refine stays_updates (.refl .refl) (.trans .trans) (fun assigned hm env => ?_) container.env
  rw [HostPort.setVariable_eq_place]
  refine HostPort.variablePlacing.atPositions_place Retold.refl (fun entry hname => .inr ?_) env
  have hname : entry.name = assigned.name := hname
  obtain ⟨hannounces, value, hplain⟩ := HostPort.announces_of_mem_toldTo hm
  exact ⟨hname ▸ hannounces, value, hname ▸ hplain⟩

theorem volumeMounts_outfit :
    Stays (AtPositions fun old new => new = old) container.volumeMounts
      (demand.outfit ordinal container).volumeMounts := by
  have hkept := ContainerKept.furnish demand.mounts (HostPort.dress ordinal demand.ports container)
  exact hkept.volumeMounts.mono fun _ _ => Patch.atPositions_of_isPrefix

theorem shape_of_outfit {operation : Operation}
    (h : operation ∈ diff [] (Container.codec.encode container)
      (Container.codec.encode (demand.outfit ordinal container))) :
    ContainerShape container operation := by
  obtain ⟨field, hf, hne, hoperation⟩ := Patch.mem_diff_object (by decide) (by simp) h
  simp only [List.mem_cons, List.not_mem_nil, or_false] at hf
  rcases hf with rfl | rfl | rfl | rfl | rfl | rfl | rfl | rfl | rfl | rfl
  · exact absurd rfl hne
  · exact absurd rfl hne
  · rcases Patch.mem_memberOperations_list EnvVar.codec_faithful
      (demand.env_outfit ordinal container) hoperation with
      hextends | ⟨env, j, old, new, henv, hold, hretold, -, inner, hinner, rfl⟩
    · exact .env hextends
    · obtain ⟨hannounces, hsets | rfl⟩ := operations_of_retold hretold hinner
      · exact .value ⟨env, old, henv, hold, hannounces⟩ ((hsets.under _).under _)
      · exact .valueFrom ⟨env, old, henv, hold, hannounces⟩
  · exact absurd rfl hne
  · exact absurd rfl hne
  · rcases Patch.mem_memberOperations_list ContainerPort.codec_faithful
      (demand.ports_outfit ordinal container) hoperation with
      hextends | ⟨ports, j, old, new, -, -, hrebound, -, inner, hinner, rfl⟩
    · exact .ports hextends
    · exact .hostPort j (((sets_of_rebound hrebound hinner).under _).under _)
  · exact absurd rfl hne
  · exact absurd rfl hne
  · rcases Patch.mem_memberOperations_list VolumeMount.codec_faithful
      (demand.volumeMounts_outfit ordinal container) hoperation with
      hextends | ⟨_, _, _, _, _, _, rfl, hne, _⟩
    · exact .volumeMounts hextends
    · exact absurd rfl hne
  · exact absurd rfl hne

-- ---------------------------------------------------------------------------
-- Pods
-- ---------------------------------------------------------------------------

theorem volumes_meet (spec : PodSpec) :
    Stays (AtPositions fun old new => new = old) spec.volumes
      (demand.meet ordinal spec).volumes := by
  have hgrown : Stays (· <+: ·) spec.volumes (demand.meet ordinal spec).volumes :=
    stays_updates List.prefix_refl List.IsPrefix.trans
      (fun _ _ volumes => List.prefix_append volumes _) spec.volumes
  exact hgrown.mono fun _ _ => Patch.atPositions_of_isPrefix

theorem shape_of_meet {pod : Pod} {spec : PodSpec} (hspec : pod.spec = some spec)
    {operation : Operation}
    (h : operation ∈ diff [] (PodSpec.codec.encode spec)
      (PodSpec.codec.encode (demand.meet ordinal spec))) :
    PodShape pod (operation.under "spec") := by
  obtain ⟨field, hf, hne, hoperation⟩ := Patch.mem_diff_object (by decide) (by simp) h
  simp only [List.mem_cons, List.not_mem_nil, or_false] at hf
  rcases hf with rfl | rfl | rfl | rfl | rfl | rfl | rfl | rfl
  · obtain ⟨outer, houter, rfl⟩ := List.mem_map.mp hoperation
    have hcontainers : AtPositions (fun old new => new = demand.outfit ordinal old)
        spec.containers (spec.containers.map (demand.outfit ordinal)) :=
      AtPositions.map (R := fun old new => new = demand.outfit ordinal old) (fun _ => rfl) _
    rcases Patch.mem_diff_list Container.codec_faithful hcontainers houter with
      ⟨j, old, _, hold, rfl, -, inner, hinner, rfl⟩ | ⟨j, value, hj, hlt, rfl⟩
    · exact .container hspec hold (demand.shape_of_outfit ordinal old hinner)
    · rw [List.length_map] at hlt
      omega
  · exact absurd rfl hne
  · exact absurd rfl hne
  · exact absurd rfl hne
  · exact absurd rfl hne
  · exact absurd rfl hne
  · exact absurd rfl hne
  · rcases Patch.mem_memberOperations_list Volume.codec_faithful (demand.volumes_meet ordinal spec)
      hoperation with hextends | ⟨_, _, _, _, _, _, rfl, hne, _⟩
    · exact .volumes hspec hextends
    · exact absurd rfl hne

end Demand

namespace Patch

theorem ofPods_self (pod : Pod) : ofPods pod pod = [] :=
  diff_self (Pod.codec_faithful.canonical pod) []

theorem mem_ofPods_spec {pod : Pod} {spec left : PodSpec} (hspec : pod.spec = some spec)
    {operation : Operation} (h : operation ∈ ofPods pod { pod with spec := some left }) :
    ∃ inner ∈ diff [] (PodSpec.codec.encode spec) (PodSpec.codec.encode left),
      operation = inner.under "spec" := by
  obtain ⟨field, hf, hne, hoperation⟩ := mem_diff_object (by decide) (by simp) h
  simp only [List.mem_cons, List.not_mem_nil, or_false] at hf
  rcases hf with rfl | rfl | rfl | rfl
  · exact absurd rfl hne
  · exact absurd rfl hne
  · exact absurd rfl hne
  · simp only [Codec.Field.optional, hspec, Option.map_some, memberOperations] at hoperation
    obtain ⟨inner, hinner, rfl⟩ := List.mem_map.mp hoperation
    exact ⟨inner, hinner, rfl⟩

end Patch

namespace Pipeline

/-- Every operation of the patch of an admission has one of the forms of `PodShape`, and where no
feature took effect there is no operation: not for a pod of no StatefulSet nor after a failure. -/
theorem shape_of_admission (pipeline : Pipeline) (pod : Pod) :
    (∀ operation ∈ Patch.ofPods pod (pipeline.admitted pod), PodShape pod operation) ∧
    ((pipeline.run pod).applied = [] → Patch.ofPods pod (pipeline.admitted pod) = []) := by
  rcases pipeline.run_admitted_cases pod with ⟨hkept, -⟩ | ⟨identity, spec, hspec, hrun, -⟩
  · rw [hkept, Patch.ofPods_self]
    exact ⟨by simp, fun _ => rfl⟩
  · rw [admitted, hrun, Outcome.admitted, Outcome.applied]
    refine ⟨fun operation h => ?_, fun hnone => ?_⟩
    · obtain ⟨inner, hinner, rfl⟩ := Patch.mem_ofPods_spec hspec h
      exact Demand.shape_of_meet _ identity.ordinal hspec hinner
    · rw [meet_of_none_inForce hnone, ← hspec]
      exact Patch.ofPods_self pod

end Pipeline

end OrdinalAdmission
