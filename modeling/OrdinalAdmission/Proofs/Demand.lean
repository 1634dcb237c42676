import OrdinalAdmission.Proofs.Failure

/-!
# What the features of a run ask for together

Entries, volumes and mounts that several features ask for one after the other are asked for in one
list each, so a run that succeeds meets a single demand (`foldl_reshape`). A feature that is listed
twice asks twice, and one without a configuration in force asks for nothing, so a run can be read off
the features that it reports (`Pipeline.Mutates`).
-/

namespace OrdinalAdmission

open Kube

/-- Entries with ports, volumes, and entries with mounts. -/
structure Demand where
  ports : List HostPort.Entry
  volumes : List Volume
  mounts : List MountVolume.Entry

instance : Append Demand where
  append first second :=
    ⟨first.ports ++ second.ports, first.volumes ++ second.volumes, first.mounts ++ second.mounts⟩

def Demand.outfit (demand : Demand) (ordinal : UInt32) (container : Container) : Container :=
  MountVolume.furnish demand.mounts (HostPort.dress ordinal demand.ports container)

def Demand.meet (demand : Demand) (ordinal : UInt32) (spec : PodSpec) : PodSpec :=
  { spec with
    volumes := updates
      (fun volume volumes => volumes ++ [MountVolume.qualifyVolume ordinal volume])
      demand.volumes spec.volumes
    containers := spec.containers.map (demand.outfit ordinal) }

def Feature.demand (annotations : Annotations.Collection) (ordinal : UInt32) : Feature → Demand
  | hostPort => ⟨(HostPort.inForce annotations ordinal).containers, [], []⟩
  | mountVolume =>
    ⟨[], (MountVolume.inForce annotations ordinal).volumes,
      (MountVolume.inForce annotations ordinal).containers⟩

def demandOf (annotations : Annotations.Collection) (ordinal : UInt32) (features : List Feature) :
    Demand where
  ports := features.flatMap fun feature => (feature.demand annotations ordinal).ports
  volumes := features.flatMap fun feature => (feature.demand annotations ordinal).volumes
  mounts := features.flatMap fun feature => (feature.demand annotations ordinal).mounts

section
variable {annotations : Annotations.Collection} {ordinal : UInt32}

@[simp] theorem Demand.outfit_name (demand : Demand) (container : Container) :
    (demand.outfit ordinal container).name = container.name := rfl

theorem Demand.names_meet (demand : Demand) (spec : PodSpec) :
    (demand.meet ordinal spec).containers.map (·.name) = spec.containers.map (·.name) := by
  simp [meet, Function.comp_def]

theorem Demand.getD_volumes_meet (demand : Demand) (spec : PodSpec) :
    (demand.meet ordinal spec).volumes.getD [] =
      spec.volumes.getD [] ++ demand.volumes.map (MountVolume.qualifyVolume ordinal) := by
  rw [List.map_eq_flatMap]
  exact getD_updates_append (fun volume => [MountVolume.qualifyVolume ordinal volume])
    demand.volumes spec.volumes

theorem Feature.reshape_eq_meet (feature : Feature) (spec : PodSpec) :
    feature.reshape annotations ordinal spec =
      (feature.demand annotations ordinal).meet ordinal spec := by
  cases feature <;> rfl

theorem Demand.outfit_append (first second : Demand) (container : Container) :
    (first ++ second).outfit ordinal container =
      second.outfit ordinal (first.outfit ordinal container) := by
  change MountVolume.furnish (first.mounts ++ second.mounts)
    (HostPort.dress ordinal (first.ports ++ second.ports) container) = _
  rw [HostPort.dress_append, MountVolume.furnish_append]
  rfl

theorem Demand.meet_append (first second : Demand) (spec : PodSpec) :
    (first ++ second).meet ordinal spec = second.meet ordinal (first.meet ordinal spec) := by
  have houtfit : (first ++ second).outfit ordinal =
      second.outfit ordinal ∘ first.outfit ordinal :=
    funext fun container => outfit_append first second container
  unfold meet
  rw [houtfit, ← List.map_map]
  congr 1
  exact updates_append first.volumes second.volumes spec.volumes

theorem demandOf_nil : demandOf annotations ordinal [] = ⟨[], [], []⟩ := rfl

theorem demandOf_cons (feature : Feature) (rest : List Feature) :
    demandOf annotations ordinal (feature :: rest) =
      feature.demand annotations ordinal ++ demandOf annotations ordinal rest := rfl

/-- A run that succeeds meets what its features ask for together. -/
theorem foldl_reshape (features : List Feature) (spec : PodSpec) :
    features.foldl (fun spec feature => feature.reshape annotations ordinal spec) spec =
      (demandOf annotations ordinal features).meet ordinal spec := by
  induction features generalizing spec with
  | nil =>
    have hid : Demand.outfit ⟨[], [], []⟩ ordinal = id := rfl
    rw [demandOf_nil, Demand.meet, hid, List.map_id]
    rfl
  | cons feature rest ih =>
    rw [List.foldl_cons, ih, Feature.reshape_eq_meet, demandOf_cons, Demand.meet_append]

theorem Feature.demand_of_not_inForce {feature : Feature}
    (h : feature.isInForce annotations ordinal = false) :
    feature.demand annotations ordinal = ⟨[], [], []⟩ := by
  cases feature with
  | hostPort =>
    have hnone : inForce? (HostPort.declared? annotations) ordinal = none := by
      simpa [isInForce] using h
    simp [demand, HostPort.inForce, hnone]
  | mountVolume =>
    have hnone : inForce? (MountVolume.declared? annotations) ordinal = none := by
      simpa [isInForce] using h
    simp [demand, MountVolume.inForce, hnone]

theorem demandOf_filter_isInForce (features : List Feature) :
    demandOf annotations ordinal (features.filter (·.isInForce annotations ordinal)) =
      demandOf annotations ordinal features := by
  induction features with
  | nil => rfl
  | cons feature rest ih =>
    rw [demandOf_cons, ← ih]
    cases h : feature.isInForce annotations ordinal with
    | true => rw [List.filter_cons_of_pos h, demandOf_cons]
    | false =>
      rw [List.filter_cons_of_neg (by simp [h]), Feature.demand_of_not_inForce h]
      rfl

theorem meet_of_none_inForce {features : List Feature}
    (h : features.filter (·.isInForce annotations ordinal) = []) (spec : PodSpec) :
    (demandOf annotations ordinal features).meet ordinal spec = spec := by
  rw [← demandOf_filter_isInForce, h, ← foldl_reshape]
  rfl

theorem volumes_demandOf {features : List Feature} (h : features.Nodup) :
    (demandOf annotations ordinal features).volumes =
      if .mountVolume ∈ features then (MountVolume.inForce annotations ordinal).volumes else [] := by
  induction features with
  | nil => rfl
  | cons feature rest ih =>
    obtain ⟨hm, hrest⟩ := List.nodup_cons.mp h
    have hcons : (demandOf annotations ordinal (feature :: rest)).volumes =
        (feature.demand annotations ordinal).volumes ++
          (demandOf annotations ordinal rest).volumes := rfl
    rw [hcons, ih hrest]
    cases feature with
    | hostPort => simp [Feature.demand]
    | mountVolume => simp [Feature.demand, hm]

theorem mem_ports_demandOf {features : List Feature} {entry : HostPort.Entry} :
    entry ∈ (demandOf annotations ordinal features).ports ↔
      .hostPort ∈ features ∧ entry ∈ (HostPort.inForce annotations ordinal).containers := by
  simp only [demandOf, List.mem_flatMap]
  constructor
  · rintro ⟨feature, hf, he⟩
    cases feature with
    | hostPort => exact ⟨hf, he⟩
    | mountVolume => cases he
  · rintro ⟨hf, he⟩
    exact ⟨_, hf, he⟩

theorem inForce?_congr {α : Type} {declared : Except MutationError (Option (Qualified α))}
    {first second : UInt32}
    (h : (inForce? declared first).isSome = (inForce? declared second).isSome) :
    inForce? declared first = inForce? declared second := by
  unfold inForce? at h ⊢
  cases declared with
  | error error => rfl
  | ok found =>
    cases found with
    | none => rfl
    | some config =>
      have hsame : config.appliesTo first = config.appliesTo second := by
        cases hfirst : config.appliesTo first <;> cases hsecond : config.appliesTo second
        · rfl
        · simp [hfirst, hsecond] at h
        · simp [hfirst, hsecond] at h
        · rfl
      simp only [hsame]

theorem demandOf_congr {features : List Feature} {first second : UInt32}
    (h : features.filter (·.isInForce annotations first) =
      features.filter (·.isInForce annotations second)) :
    demandOf annotations first features = demandOf annotations second features := by
  have hdemand : ∀ feature ∈ features,
      feature.demand annotations first = feature.demand annotations second := by
    intro feature hf
    have hsame : feature.isInForce annotations first = feature.isInForce annotations second := by
      have hmem : feature ∈ features.filter (·.isInForce annotations first) ↔
          feature ∈ features.filter (·.isInForce annotations second) := by rw [h]
      exact Bool.eq_iff_iff.mpr (by simpa [List.mem_filter, hf] using hmem)
    cases feature with
    | hostPort => simp only [Feature.demand, HostPort.inForce, inForce?_congr hsame]
    | mountVolume => simp only [Feature.demand, MountVolume.inForce, inForce?_congr hsame]
  have hflat : ∀ {α : Type} (asked : Demand → List α),
      (features.flatMap fun feature => asked (feature.demand annotations first)) =
        features.flatMap fun feature => asked (feature.demand annotations second) := by
    intro α asked
    rw [List.flatMap_def, List.flatMap_def]
    exact congrArg _ (List.map_congr_left fun feature hf => by rw [hdemand feature hf])
  simp only [demandOf, hflat]

theorem demandOf_ports_only {features : List Feature}
    (h : .mountVolume ∉ features.filter (·.isInForce annotations ordinal)) :
    (demandOf annotations ordinal features).volumes = [] ∧
      (demandOf annotations ordinal features).mounts = [] := by
  have hoff : ∀ feature ∈ features, (feature.demand annotations ordinal).volumes = [] ∧
      (feature.demand annotations ordinal).mounts = [] := by
    intro feature hf
    cases feature with
    | hostPort => exact ⟨rfl, rfl⟩
    | mountVolume =>
      have hoff : Feature.mountVolume.isInForce annotations ordinal = false := by
        simpa [List.mem_filter, hf] using h
      simp [Feature.demand_of_not_inForce hoff]
  exact ⟨List.flatMap_eq_nil_iff.mpr fun feature hf => (hoff feature hf).1,
    List.flatMap_eq_nil_iff.mpr fun feature hf => (hoff feature hf).2⟩

end

/-- What a run that goes through says of the features it reports, and what it makes of the pod. -/
structure Pipeline.Mutates (pipeline : Pipeline) (pod : Pod) (identity : Identity) (left : Pod)
    (applied : List Feature) : Prop where
  identified : pipeline.identifier.identify pod.metadata = .ok identity
  listed : applied.Sublist pipeline.features
  isInForce : ∀ feature ∈ applied,
    feature.isInForce (pipeline.scheme.collect pod.metadata) identity.ordinal = true
  none_of_no_spec : pod.spec = none → applied = []
  left_eq : left = { pod with
    spec := pod.spec.map
      ((demandOf (pipeline.scheme.collect pod.metadata) identity.ordinal applied).meet
        identity.ordinal) }

theorem Pipeline.mutates_of_run {pipeline : Pipeline} {pod left : Pod} {identity : Identity}
    {applied : List Feature} (h : pipeline.run pod = .mutated identity left applied) :
    pipeline.Mutates pod identity left applied := by
  cases course h with
  | bare hid hspec =>
    refine ⟨hid, List.nil_sublist _, by simp, fun _ => rfl, ?_⟩
    rw [hspec, Option.map_none, ← hspec]
  | mutated hid hspec hrun =>
    obtain ⟨rfl, rfl⟩ := applyFeatures_ok hrun
    refine ⟨hid, List.filter_sublist, fun feature hf => (List.mem_filter.mp hf).2, ?_, ?_⟩
    · simp [hspec]
    · rw [foldl_reshape, demandOf_filter_isInForce, hspec, Option.map_some]

theorem Pipeline.Mutates.eq_of_none_applied {pipeline : Pipeline} {pod left : Pod}
    {identity : Identity} (h : pipeline.Mutates pod identity left []) : left = pod := by
  have hmeet : (demandOf (pipeline.scheme.collect pod.metadata) identity.ordinal []).meet
      identity.ordinal = id := funext fun spec => meet_of_none_inForce rfl spec
  rw [h.left_eq, hmeet, Option.map_id]
  rfl

end OrdinalAdmission
