import OrdinalAdmission.Pipeline
import OrdinalAdmission.Proofs.Container

/-!
# What a run that succeeds makes of a spec

`Feature.reshape` is what a feature makes of a spec when nothing stops it: every list grows by what
the configuration in force asks for, and by nothing where no configuration is in force. A run of
several features that succeeds is these reshapings one after the other (`applyFeatures_ok`), and its
features with an effect are those with a configuration in force.
-/

namespace OrdinalAdmission

open Kube

-- ---------------------------------------------------------------------------
-- Configurations in force
-- ---------------------------------------------------------------------------

/-- The declared configuration if it can be taken and lets the ordinal in. -/
def inForce? {α : Type} (declared : Except MutationError (Option (Qualified α)))
    (ordinal : UInt32) : Option α :=
  match declared with
  | .ok (some config) => if config.appliesTo ordinal then some config.value else none
  | _ => none

def HostPort.inForce (annotations : Annotations.Collection) (ordinal : UInt32) : Config :=
  (inForce? (declared? annotations) ordinal).getD {}

def MountVolume.inForce (annotations : Annotations.Collection) (ordinal : UInt32) : Config :=
  (inForce? (declared? annotations) ordinal).getD {}

namespace Feature

def isInForce (annotations : Annotations.Collection) (ordinal : UInt32) : Feature → Bool
  | hostPort => (inForce? (HostPort.declared? annotations) ordinal).isSome
  | mountVolume => (inForce? (MountVolume.declared? annotations) ordinal).isSome

/-- The spec after the feature, where nothing stops it. -/
def reshape (annotations : Annotations.Collection) (ordinal : UInt32) (spec : PodSpec) :
    Feature → PodSpec
  | hostPort =>
    { spec with
      containers := spec.containers.map
        (HostPort.dress ordinal (HostPort.inForce annotations ordinal).containers) }
  | mountVolume =>
    { spec with
      volumes := updates (fun volume volumes => volumes ++ [MountVolume.qualifyVolume ordinal volume])
        (MountVolume.inForce annotations ordinal).volumes spec.volumes
      containers := spec.containers.map
        (MountVolume.furnish (MountVolume.inForce annotations ordinal).containers) }

-- ---------------------------------------------------------------------------
-- One feature
-- ---------------------------------------------------------------------------

theorem applyDeclared_ok {α : Type} {declared : Except MutationError (Option (Qualified α))}
    {work : Qualified α → PodSpec → PodSpec × Option MutationError} {ordinal : UInt32}
    {spec : PodSpec} {effect : Effect}
    (h : (applyDeclared declared work ordinal spec).2 = .ok effect) :
    (∃ config, declared = .ok (some config) ∧ config.appliesTo ordinal = true ∧
      effect = .applied ∧ (work config spec).2 = none ∧
      (applyDeclared declared work ordinal spec).1 = (work config spec).1) ∨
    (inForce? declared ordinal = none ∧ effect ≠ .applied ∧
      (applyDeclared declared work ordinal spec).1 = spec) := by
  unfold applyDeclared at h ⊢
  split at h
  · cases h
  · cases h
    exact .inr ⟨rfl, by simp, rfl⟩
  · next config =>
    split at h
    · next happlies =>
      left
      refine ⟨config, rfl, happlies, ?_⟩
      rw [if_pos happlies]
      split at h
      · next left hw =>
        cases h
        exact ⟨rfl, by rw [hw], by rw [hw]⟩
      · cases h
    · next happlies =>
      cases h
      refine .inr ⟨?_, by simp, by simp [happlies]⟩
      simp [inForce?, happlies]

theorem inForce?_of_applies {α : Type} {config : Qualified α} {ordinal : UInt32}
    (h : config.appliesTo ordinal = true) :
    inForce? (.ok (some config)) ordinal = some config.value := by
  simp [inForce?, h]

theorem inForce?_eq_some_iff {α : Type} {declared : Except MutationError (Option (Qualified α))}
    {ordinal : UInt32} {value : α} :
    inForce? declared ordinal = some value ↔ ∃ config, declared = .ok (some config) ∧
      config.appliesTo ordinal = true ∧ config.value = value := by
  constructor
  · intro h
    unfold inForce? at h
    split at h
    · next config =>
      split at h
      · next happlies => exact ⟨config, rfl, happlies, Option.some.inj h⟩
      · cases h
    · cases h
  · rintro ⟨config, rfl, happlies, rfl⟩
    exact inForce?_of_applies happlies

theorem declared?_eq_error_iff {annotations : Annotations.Collection} {error : MutationError} :
    MountVolume.declared? annotations = .error error ↔
      mountVolume.declared? MountVolume.Config.codec annotations = .error error := by
  unfold MountVolume.declared?
  cases mountVolume.declared? MountVolume.Config.codec annotations <;> simp [Except.map]

theorem volumes_of_declared {annotations : Annotations.Collection}
    {config : Qualified MountVolume.Config}
    (h : MountVolume.declared? annotations = .ok (some config)) : config.value.volumes ≠ [] := by
  unfold MountVolume.declared? at h
  cases hd : Feature.mountVolume.declared? MountVolume.Config.codec annotations with
  | error error => rw [hd] at h; cases h
  | ok found =>
    rw [hd] at h
    have hf : found.filter (fun config => !config.value.volumes.isEmpty) = some config :=
      Except.ok.inj h
    obtain ⟨-, hne⟩ := Option.filter_eq_some_iff.mp hf
    simpa using hne

theorem reshape_of_not_inForce {annotations : Annotations.Collection} {ordinal : UInt32}
    {feature : Feature} (h : feature.isInForce annotations ordinal = false) (spec : PodSpec) :
    feature.reshape annotations ordinal spec = spec := by
  cases feature with
  | hostPort =>
    have hf : inForce? (HostPort.declared? annotations) ordinal = none := by
      simpa [isInForce] using h
    have hid : HostPort.dress ordinal [] = id := rfl
    simp [reshape, HostPort.inForce, hf, hid]
  | mountVolume =>
    have hf : inForce? (MountVolume.declared? annotations) ordinal = none := by
      simpa [isInForce] using h
    have hid : MountVolume.furnish [] = id := rfl
    simp [reshape, MountVolume.inForce, hf, hid]

/-- A feature that succeeds leaves the reshaped spec, and has an effect where it is in force. -/
theorem apply_ok {feature : Feature} {annotations : Annotations.Collection} {ordinal : UInt32}
    {spec : PodSpec} {effect : Effect}
    (h : (feature.apply annotations ordinal spec).2 = .ok effect) :
    (feature.apply annotations ordinal spec).1 = feature.reshape annotations ordinal spec ∧
      (effect = .applied ↔ feature.isInForce annotations ordinal = true) := by
  cases feature with
  | hostPort =>
    rcases applyDeclared_ok h with ⟨config, hd, happlies, rfl, hw, hleft⟩ | ⟨hf, hne, hleft⟩
    · have hf := inForce?_of_applies happlies
      rw [HostPort.mutate_of_applies happlies] at hw hleft
      refine ⟨?_, by simp [isInForce, hd, hf]⟩
      refine hleft.trans ?_
      simp [reshape, HostPort.inForce, hd, hf, HostPort.applyEntries_ok hw]
    · have hoff : Feature.hostPort.isInForce annotations ordinal = false := by
        simp [isInForce, hf]
      exact ⟨hleft.trans (reshape_of_not_inForce hoff spec).symm, by simp [hne, hoff]⟩
  | mountVolume =>
    rcases applyDeclared_ok h with ⟨config, hd, happlies, rfl, -, hleft⟩ | ⟨hf, hne, hleft⟩
    · have hf := inForce?_of_applies happlies
      refine ⟨?_, by simp [isInForce, hd, hf]⟩
      refine hleft.trans ?_
      have hvolumes := updates_snoc (MountVolume.qualifyVolume ordinal) (volumes_of_declared hd)
        spec.volumes
      simp only [MountVolume.mutate, happlies, if_true, MountVolume.Config.apply_eq, reshape,
        MountVolume.inForce, hd, hf, Option.getD_some, hvolumes]
    · have hoff : Feature.mountVolume.isInForce annotations ordinal = false := by
        simp [isInForce, hf]
      exact ⟨hleft.trans (reshape_of_not_inForce hoff spec).symm, by simp [hne, hoff]⟩

end Feature

-- ---------------------------------------------------------------------------
-- Features one after the other
-- ---------------------------------------------------------------------------

namespace Pipeline

theorem applyFeatures_cons_ok {annotations : Annotations.Collection} {ordinal : UInt32}
    {feature : Feature} {rest : List Feature} {spec left : PodSpec} {applied : List Feature}
    (h : applyFeatures annotations ordinal (feature :: rest) spec = .ok (left, applied)) :
    ∃ effect more, (feature.apply annotations ordinal spec).2 = .ok effect ∧
      applyFeatures annotations ordinal rest (feature.apply annotations ordinal spec).1 =
        .ok (left, more) ∧
      applied = if effect = .applied then feature :: more else more := by
  rw [applyFeatures] at h
  split at h
  · cases h
  · next between effect he =>
    rw [he]
    cases hr : applyFeatures annotations ordinal rest between with
    | error error => rw [hr] at h; cases h
    | ok result =>
      rw [hr] at h
      cases h
      exact ⟨effect, result.2, rfl, rfl, rfl⟩

theorem applyFeatures_ok {annotations : Annotations.Collection} {ordinal : UInt32}
    {features : List Feature} {spec left : PodSpec} {applied : List Feature}
    (h : applyFeatures annotations ordinal features spec = .ok (left, applied)) :
    left = features.foldl (fun spec feature => feature.reshape annotations ordinal spec) spec ∧
      applied = features.filter (·.isInForce annotations ordinal) := by
  induction features generalizing spec applied with
  | nil =>
    cases h
    exact ⟨rfl, rfl⟩
  | cons feature rest ih =>
    obtain ⟨effect, more, he, hr, rfl⟩ := applyFeatures_cons_ok h
    obtain ⟨hleft, heffect⟩ := Feature.apply_ok he
    obtain ⟨rfl, rfl⟩ := ih hr
    refine ⟨by rw [List.foldl_cons, hleft], ?_⟩
    by_cases hf : feature.isInForce annotations ordinal = true
    · simp [heffect.mpr hf, hf]
    · have hne : effect ≠ .applied := fun hc => hf (heffect.mp hc)
      simp [hne, hf]

end Pipeline

end OrdinalAdmission
