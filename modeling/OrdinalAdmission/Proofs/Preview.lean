import Mathlib.Data.List.Sort
import OrdinalAdmission.Preview.Row
import OrdinalAdmission.Proofs.Demand

/-!
# Rows and what they report

A row is made from the outcome of a run and from the pod that it admits, without comparing that pod
with the requested one. It reports what is admitted all the same: volumes are only ever appended, so
dropping as many as there were leaves those that were asked for, and where no feature has an effect
the pod is admitted as it came. `IsShown` says what a row tells of a port, and `ListsShown` in which
order; a list with these properties is the row's.
-/

namespace OrdinalAdmission.Preview

open Kube

-- ---------------------------------------------------------------------------
-- Ports that are bound on the host
-- ---------------------------------------------------------------------------

inductive IsShown (pod : Pod) : Nat × Nat → String → Prop where
  | bound {spec : PodSpec} {container : Container} {ports : List ContainerPort}
      {port : ContainerPort} {hostPort : Int32} {i j : Nat} :
      pod.spec = some spec → spec.containers[i]? = some container →
      container.ports = some ports → ports[j]? = some port → port.hostPort = some hostPort →
      IsShown pod (i, j)
        (container.name ++ "/" ++ port.name.getD "-" ++ "=" ++ Decimal.intText hostPort.toInt)

/-- Containers come in their order, and so do the ports of one container. -/
def Precedes (one other : Nat × Nat) : Prop :=
  one.1 < other.1 ∨ one.1 = other.1 ∧ one.2 < other.2

/-- The texts for all ports with a host port, each once, in the order of the ports. -/
def ListsShown (pod : Pod) (texts : List String) : Prop :=
  ∃ entries : List ((Nat × Nat) × String), (entries.Pairwise fun a b => Precedes a.1 b.1) ∧
    (∀ position text, (position, text) ∈ entries ↔ IsShown pod position text) ∧
    texts = entries.map Prod.snd

theorem pairwise_snd_lt_zipIdx {α : Type} (items : List α) :
    items.zipIdx.Pairwise fun a b => a.2 < b.2 := by
  have hsorted : (items.zipIdx.map Prod.snd).Pairwise (· < ·) := by
    rw [List.zipIdx_map_snd]
    exact List.pairwise_lt_range'
  exact List.pairwise_map.mp hsorted

def shownIn (container : Container) (i : Nat) : List ((Nat × Nat) × String) :=
  (container.ports.getD []).zipIdx.filterMap fun (port, j) =>
    (describePort container port).map fun text => ((i, j), text)

def shown (pod : Pod) : List ((Nat × Nat) × String) :=
  (pod.spec.elim [] (·.containers)).zipIdx.flatMap fun (container, i) => shownIn container i

theorem map_snd_shownIn (container : Container) (i : Nat) :
    (shownIn container i).map Prod.snd =
      (container.ports.getD []).filterMap (describePort container) :=
  calc (shownIn container i).map Prod.snd
    _ = (container.ports.getD []).zipIdx.filterMap fun item => describePort container item.1 := by
      simp [shownIn, List.map_filterMap, Function.comp_def]
    _ = ((container.ports.getD []).zipIdx.map Prod.fst).filterMap (describePort container) := by
      rw [List.filterMap_map]
      rfl
    _ = (container.ports.getD []).filterMap (describePort container) := by
      rw [List.zipIdx_map_fst]

theorem map_snd_shown (pod : Pod) : (shown pod).map Prod.snd = hostPorts pod := by
  have hcontainers : hostPorts pod = (pod.spec.elim [] (·.containers)).flatMap fun container =>
      (container.ports.getD []).filterMap (describePort container) := by
    unfold hostPorts
    cases pod.spec <;> rfl
  rw [hcontainers, shown]
  generalize pod.spec.elim [] (·.containers) = containers
  calc (containers.zipIdx.flatMap fun item => shownIn item.1 item.2).map Prod.snd
    _ = containers.zipIdx.flatMap fun item =>
        (item.1.ports.getD []).filterMap (describePort item.1) := by
      simp only [List.map_flatMap, map_snd_shownIn]
    _ = (containers.zipIdx.map Prod.fst).flatMap fun container =>
        (container.ports.getD []).filterMap (describePort container) := by
      rw [List.flatMap_map]
    _ = containers.flatMap fun container =>
        (container.ports.getD []).filterMap (describePort container) := by
      rw [List.zipIdx_map_fst]

theorem mem_shownIn {container : Container} {i : Nat} {position : Nat × Nat} {text : String} :
    (position, text) ∈ shownIn container i ↔ position.1 = i ∧ ∃ ports port,
      container.ports = some ports ∧ ports[position.2]? = some port ∧
        describePort container port = some text := by
  obtain ⟨i', j⟩ := position
  simp only [shownIn, List.mem_filterMap, Prod.exists, List.mem_zipIdx_iff_getElem?,
    Option.map_eq_some_iff, Prod.mk.injEq]
  constructor
  · rintro ⟨port, j', hport, text, htext, ⟨rfl, rfl⟩, rfl⟩
    cases hports : container.ports with
    | none => simp [hports] at hport
    | some ports => exact ⟨rfl, ports, port, rfl, by simpa [hports] using hport, htext⟩
  · rintro ⟨rfl, ports, port, hports, hport, htext⟩
    exact ⟨port, j, by simpa [hports] using hport, text, htext, ⟨rfl, rfl⟩, rfl⟩

theorem mem_shown {pod : Pod} {position : Nat × Nat} {text : String} :
    (position, text) ∈ shown pod ↔ IsShown pod position text := by
  obtain ⟨i, j⟩ := position
  simp only [shown, List.mem_flatMap, Prod.exists, List.mem_zipIdx_iff_getElem?, mem_shownIn]
  constructor
  · rintro ⟨container, i', hcontainer, rfl, ports, port, hports, hport, htext⟩
    obtain ⟨hostPort, hhost, rfl⟩ := Option.map_eq_some_iff.mp htext
    cases hspec : pod.spec with
    | none => simp [hspec] at hcontainer
    | some spec => exact .bound hspec (by simpa [hspec] using hcontainer) hports hport hhost
  · intro h
    cases h with
    | @bound spec container ports port hostPort _ _ hspec hcontainer hports hport hhost =>
      refine ⟨container, i, by simpa [hspec] using hcontainer, rfl, ports, port, hports, hport, ?_⟩
      simp [describePort, hhost]

theorem pairwise_shown (pod : Pod) : (shown pod).Pairwise fun a b => Precedes a.1 b.1 := by
  refine List.pairwise_flatMap.mpr ⟨?_, ?_⟩
  · rintro ⟨container, i⟩ -
    refine List.pairwise_filterMap.mpr ((pairwise_snd_lt_zipIdx _).imp ?_)
    rintro ⟨port, j⟩ ⟨port', j'⟩ hlt entry hentry entry' hentry'
    obtain ⟨text, -, rfl⟩ := Option.map_eq_some_iff.mp hentry
    obtain ⟨text', -, rfl⟩ := Option.map_eq_some_iff.mp hentry'
    exact .inr ⟨rfl, hlt⟩
  · refine (pairwise_snd_lt_zipIdx _).imp ?_
    rintro ⟨container, i⟩ ⟨container', i'⟩ hlt entry hentry entry' hentry'
    obtain ⟨hi, -⟩ := mem_shownIn.mp hentry
    obtain ⟨hi', -⟩ := mem_shownIn.mp hentry'
    exact .inl (by rw [hi, hi']; exact hlt)

instance : Std.Asymm fun one other : (Nat × Nat) × String => Precedes one.1 other.1 where
  asymm one other := by
    unfold Precedes
    omega

theorem listsShown_iff {pod : Pod} {texts : List String} :
    ListsShown pod texts ↔ texts = hostPorts pod := by
  constructor
  · rintro ⟨entries, hsorted, hmem, rfl⟩
    have hentries : entries = shown pod :=
      hsorted.eq_of_mem_iff (pairwise_shown pod) fun (position, text) =>
        (hmem position text).trans mem_shown.symm
    rw [hentries, map_snd_shown]
  · rintro rfl
    exact ⟨shown pod, pairwise_shown pod, fun _ _ => mem_shown, (map_snd_shown pod).symm⟩

-- ---------------------------------------------------------------------------
-- Volumes that are added
-- ---------------------------------------------------------------------------

section
variable {pipeline : Pipeline} {pod left : Pod} {identity : Identity} {applied : List Feature}

theorem volumes_of_mutates (h : pipeline.Mutates pod identity left applied) :
    volumes left = volumes pod ++
      (demandOf (pipeline.scheme.collect pod.metadata) identity.ordinal applied).volumes.map
        (MountVolume.qualifyVolume identity.ordinal) := by
  rw [h.left_eq]
  cases hspec : pod.spec with
  | none => simp [volumes, hspec, h.none_of_no_spec hspec, demandOf_nil]
  | some spec => simpa [volumes, hspec] using Demand.getD_volumes_meet _ spec

theorem addedVolumes_of_mutates (h : pipeline.Mutates pod identity left applied) :
    addedVolumes pod left =
      (demandOf (pipeline.scheme.collect pod.metadata) identity.ordinal applied).volumes.map
        fun volume => describeVolume (MountVolume.qualifyVolume identity.ordinal volume) := by
  rw [addedVolumes, volumes_of_mutates h, List.drop_left, List.map_map]
  rfl

theorem addedVolumes_self (pod : Pod) : addedVolumes pod pod = [] := by
  simp [addedVolumes]

theorem addedVolumes_of_applied (hdistinct : pipeline.features.Nodup)
    (h : pipeline.Mutates pod identity left applied) (hm : .mountVolume ∈ applied) :
    ∃ config, MountVolume.declared? (pipeline.scheme.collect pod.metadata) = .ok (some config) ∧
      config.appliesTo identity.ordinal = true ∧
      addedVolumes pod left = config.value.volumes.map
        fun volume => describeVolume (MountVolume.qualifyVolume identity.ordinal volume) := by
  obtain ⟨value, hvalue⟩ := Option.isSome_iff_exists.mp (h.isInForce _ hm)
  obtain ⟨config, hdeclared, happlies, rfl⟩ := Feature.inForce?_eq_some_iff.mp hvalue
  refine ⟨config, hdeclared, happlies, ?_⟩
  rw [addedVolumes_of_mutates h, volumes_demandOf (hdistinct.sublist h.listed), if_pos hm,
    MountVolume.inForce, hvalue, Option.getD_some]

theorem addedVolumes_of_not_applied (h : pipeline.Mutates pod identity left applied)
    (hm : .mountVolume ∉ applied) : addedVolumes pod left = [] := by
  have hnone : (demandOf (pipeline.scheme.collect pod.metadata) identity.ordinal applied).volumes =
      [] := (demandOf_ports_only fun h => hm (List.mem_filter.mp h).1).1
  rw [addedVolumes_of_mutates h, hnone, List.map_nil]

-- ---------------------------------------------------------------------------
-- Whole rows
-- ---------------------------------------------------------------------------

theorem admitted_of_none_applied (h : (pipeline.run pod).applied = []) :
    pipeline.admitted pod = pod := by
  unfold Pipeline.admitted
  cases hrun : pipeline.run pod with
  | notStatefulSet reason => rfl
  | failed identity feature error => rfl
  | mutated identity left applied =>
    rw [hrun] at h
    obtain rfl : applied = [] := h
    exact (Pipeline.mutates_of_run hrun).eq_of_none_applied

end

inductive Status.IsOf : Outcome → Status → Prop where
  | skipped (reason : IdentityError) : IsOf (.notStatefulSet reason) (.skipped reason.message)
  | failed (identity : Identity) (feature : Feature) (error : MutationError) :
      IsOf (.failed identity feature error) (.failed (feature.name ++ ": " ++ error.message))
  | unchanged (identity : Identity) (left : Pod) : IsOf (.mutated identity left []) .unchanged
  | mutated (identity : Identity) (left : Pod) {applied : List Feature} :
      applied ≠ [] → IsOf (.mutated identity left applied) .mutated

theorem Status.ofOutcome_eq_iff {outcome : Outcome} {status : Status} :
    ofOutcome outcome = status ↔ status.IsOf outcome := by
  constructor
  · rintro rfl
    cases outcome with
    | notStatefulSet reason => exact .skipped reason
    | failed identity feature error => exact .failed identity feature error
    | mutated identity left applied =>
      cases applied with
      | nil => exact .unchanged identity left
      | cons feature rest => exact .mutated identity left (by simp)
  · intro h
    cases h with
    | skipped | failed | unchanged => rfl
    | mutated identity left hsome => simp [ofOutcome, hsome]

theorem Status.IsOf.applied_eq_nil {outcome : Outcome} {status : Status} (h : status.IsOf outcome)
    (hstatus : status ≠ .mutated) : outcome.applied = [] := by
  cases h with
  | skipped | failed | unchanged => rfl
  | mutated => exact absurd rfl hstatus

/-- What the row says of the pod is what the pipeline comes to. -/
structure Row.Reports (row : Row) (pipeline : Pipeline) (pod : Pod) : Prop where
  status : ∀ status, row.status = status ↔ status.IsOf (pipeline.run pod)
  volumes : ∀ identity left applied, pipeline.run pod = .mutated identity left applied →
    .mountVolume ∈ applied → ∃ config,
      MountVolume.declared? (pipeline.scheme.collect pod.metadata) = .ok (some config) ∧
      config.appliesTo identity.ordinal = true ∧
      row.volumes = config.value.volumes.map
        fun volume => describeVolume (MountVolume.qualifyVolume identity.ordinal volume)
  noVolumes : .mountVolume ∉ (pipeline.run pod).applied → row.volumes = []
  hostPorts : ∀ texts, ListsShown (pipeline.admitted pod) texts ↔ texts = row.hostPorts
  kept : row.status ≠ .mutated → pipeline.admitted pod = pod ∧
    ∀ texts, ListsShown pod texts ↔ texts = row.hostPorts

/-- A row reports what is admitted, for every pod and every pipeline that lists no feature twice. -/
theorem reports_row (pipeline : Pipeline) (hdistinct : pipeline.features.Nodup) (pod : Pod) :
    (row pod (pipeline.run pod)).Reports pipeline pod where
  status status := Status.ofOutcome_eq_iff
  volumes identity left applied hrun hm := by
    rw [hrun]
    exact addedVolumes_of_applied hdistinct (Pipeline.mutates_of_run hrun) hm
  noVolumes hm := by
    cases hrun : pipeline.run pod with
    | notStatefulSet reason => exact addedVolumes_self pod
    | failed identity feature error => exact addedVolumes_self pod
    | mutated identity left applied =>
      rw [hrun] at hm
      exact addedVolumes_of_not_applied (Pipeline.mutates_of_run hrun) hm
  hostPorts texts := listsShown_iff
  kept hstatus := by
    have hkept : pipeline.admitted pod = pod :=
      admitted_of_none_applied ((Status.ofOutcome_eq_iff.mp rfl).applied_eq_nil hstatus)
    refine ⟨hkept, fun texts => listsShown_iff.trans ?_⟩
    rw [row, ← Pipeline.admitted, hkept]

def alreadyMounted : Pod where
  metadata := {
    annotations := some (.ofList [
      ("spoditor.io/host-port",
        r#"{"containers": [{"name": "a", "ports": [{"name": "p", "hostPort": 80}]}]}"#),
      ("spoditor.io/mount-volume",
        r#"{"volumes": [{"name": "v", "configMap": {"name": "app"}}]}"#)])
    labels := some (.ofList [(podNameLabel, "web-2")]) }
  spec := some {
    containers := [
      { name := "a", ports := some [{ containerPort := 1 }, { hostPort := some 90 }] }]
    volumes := some [{ name := "v", configMap := some { name := "app-2" } }] }

theorem reports_row_already_mounted :
    Pipeline.standard.features.Nodup ∧
    let row := row alreadyMounted (Pipeline.standard.run alreadyMounted)
    row.Reports Pipeline.standard alreadyMounted ∧ row.status = .mutated ∧
    row.volumes = ["v=configmap/app-2"] ∧ row.hostPorts = ["a/-=90", "a/p=82"] := by
  have hdistinct : Pipeline.standard.features.Nodup := by decide
  have hreports := reports_row Pipeline.standard hdistinct alreadyMounted
  refine ⟨hdistinct, hreports, ?_, ?_, ?_⟩
  · decide +kernel
  · decide +kernel
  · decide +kernel

end OrdinalAdmission.Preview
