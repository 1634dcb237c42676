import Mathlib.Data.List.Forall2
import OrdinalAdmission.Proofs.Container

/-!
# What volumes per ordinal make of a spec

The entries of a configuration take effect one after the other, and each one goes through all
containers. What comes of it can be said of each container by itself: the mounts of the entries with
its name are added to its own, in the order of the entries (`IsFurnished`). Of a declared volume only
the names of its ConfigMap and of its Secret are written anew (`IsQualified`). `IsMounted` says what
a spec becomes; it leaves no choice, and `mounted_of_mutate` says that this is what comes of it.
-/

namespace OrdinalAdmission.MountVolume

open Kube

-- ---------------------------------------------------------------------------
-- Containers
-- ---------------------------------------------------------------------------

def mountsFor (name : String) (entries : List Entry) : List VolumeMount :=
  (entries.filter (·.name == name)).flatMap (·.volumeMounts)

structure IsFurnished (entries : List Entry) (before after : Container) : Prop where
  mounts : after.volumeMounts.getD [] =
    before.volumeMounts.getD [] ++ mountsFor before.name entries
  absent : after.volumeMounts = none ↔
    before.volumeMounts = none ∧ ∀ entry ∈ entries, entry.name ≠ before.name
  rest : after = { before with volumeMounts := after.volumeMounts }

theorem IsFurnished.unique {entries : List Entry} {before one other : Container}
    (hone : IsFurnished entries before one) (hother : IsFurnished entries before other) :
    one = other := by
  have hmounts : one.volumeMounts = other.volumeMounts := by
    have hlist := hone.mounts.trans hother.mounts.symm
    have habsent := hone.absent.trans hother.absent.symm
    cases h : one.volumeMounts with
    | none => exact (habsent.mp h).symm
    | some mounts =>
      cases h' : other.volumeMounts with
      | none => exact absurd (habsent.mpr h') (by simp [h])
      | some mounts' => simpa [h, h'] using hlist
  rw [hone.rest, hother.rest, hmounts]

theorem isFurnished_furnish (entries : List Entry) (container : Container) :
    IsFurnished entries container (furnish entries container) where
  mounts := getD_updates_append (fun entry : Entry => entry.volumeMounts)
    (entries.filter (·.name == container.name)) container.volumeMounts
  absent := by simp [furnish, updates_eq_none_iff]
  rest := rfl

-- ---------------------------------------------------------------------------
-- Volumes
-- ---------------------------------------------------------------------------

/-- The reference `written` is `name` made that of the ordinal. An empty name refers to nothing. -/
structure IsNameAt (ordinal : UInt32) (name written : String) : Prop where
  empty : name = "" → written = ""
  suffixed : name ≠ "" → written = name ++ "-" ++ Decimal.text ordinal.toNat

structure IsQualified (ordinal : UInt32) (before after : Volume) : Prop where
  configMap : Option.Rel
    (fun source written => IsNameAt ordinal source.name written.name ∧
      written = { source with name := written.name }) before.configMap after.configMap
  secret : Option.Rel
    (fun source written => Option.Rel (IsNameAt ordinal) source.secretName written.secretName ∧
      written = { source with secretName := written.secretName }) before.secret after.secret
  rest : after = { before with configMap := after.configMap, secret := after.secret }

section
variable {ordinal : UInt32}

theorem isNameAt_iff {name written : String} :
    IsNameAt ordinal name written ↔ ordinalName ordinal name = written := by
  by_cases hempty : name = ""
  · subst hempty
    exact ⟨fun h => (h.empty rfl).symm, fun h => ⟨fun _ => h.symm, fun hne => absurd rfl hne⟩⟩
  · have hwritten : ordinalName ordinal name = name ++ "-" ++ Decimal.text ordinal.toNat := by
      simp [ordinalName, hempty]
    rw [hwritten]
    exact ⟨fun h => (h.suffixed hempty).symm, fun h => ⟨fun h' => absurd h' hempty, fun _ => h.symm⟩⟩

theorem rel_iff_map_eq {α β : Type} {R : α → β → Prop} {f : α → β} (h : ∀ a b, R a b ↔ f a = b)
    {x : Option α} {y : Option β} : Option.Rel R x y ↔ x.map f = y := by
  cases x <;> cases y <;> simp [h]

theorem isQualified_iff {before after : Volume} :
    IsQualified ordinal before after ↔ qualifyVolume ordinal before = after := by
  have hconfigMap : ∀ source written : ConfigMapSource,
      (IsNameAt ordinal source.name written.name ∧ written = { source with name := written.name }) ↔
        { source with name := ordinalName ordinal source.name } = written := by
    intro source written
    rw [isNameAt_iff]
    constructor
    · rintro ⟨hname, hrest⟩
      rw [hrest, hname]
    · rintro rfl
      exact ⟨rfl, rfl⟩
  have hsecret : ∀ source written : SecretSource,
      (Option.Rel (IsNameAt ordinal) source.secretName written.secretName ∧
        written = { source with secretName := written.secretName }) ↔
        { source with secretName := source.secretName.map (ordinalName ordinal) } = written := by
    intro source written
    rw [rel_iff_map_eq (R := IsNameAt ordinal) fun _ _ => isNameAt_iff]
    constructor
    · rintro ⟨hname, hrest⟩
      rw [hrest, hname]
    · rintro rfl
      exact ⟨rfl, rfl⟩
  constructor
  · intro h
    rw [h.rest, ← (rel_iff_map_eq hconfigMap).mp h.configMap, ← (rel_iff_map_eq hsecret).mp h.secret]
    rfl
  · rintro rfl
    exact ⟨(rel_iff_map_eq hconfigMap).mpr rfl, (rel_iff_map_eq hsecret).mpr rfl, rfl⟩

-- ---------------------------------------------------------------------------
-- Specs
-- ---------------------------------------------------------------------------

structure IsMounted (ordinal : UInt32) (config : Config) (before after : PodSpec) : Prop where
  volumes : after.volumes =
    some (before.volumes.getD [] ++ config.volumes.map (qualifyVolume ordinal))
  containers : List.Forall₂ (IsFurnished config.containers) before.containers after.containers
  rest : after = { before with volumes := after.volumes, containers := after.containers }

theorem IsMounted.unique {config : Config} {before one other : PodSpec}
    (hone : IsMounted ordinal config before one) (hother : IsMounted ordinal config before other) :
    one = other := by
  have hcontainers : one.containers = other.containers :=
    List.right_unique_forall₂' (fun _ _ _ h h' => h.unique h') hone.containers hother.containers
  rw [hone.rest, hother.rest, hone.volumes, hother.volumes, hcontainers]

theorem isMounted_apply (config : Config) (spec : PodSpec) :
    IsMounted ordinal config spec (config.apply ordinal spec) := by
  rw [Config.apply_eq]
  refine ⟨rfl, ?_, rfl⟩
  rw [List.forall₂_map_right_iff, List.forall₂_same]
  exact fun container _ => isFurnished_furnish config.containers container

end

/-- What mounting the volumes of a configuration comes to where it applies. The spec becomes the one
that has the volumes, made those of the ordinal, and the mounts besides its own; no other spec is one
like that. The feature that declares the configuration has done its work then, and never fails. -/
theorem mounted_of_mutate (config : Qualified Config) (ordinal : UInt32)
    (happlies : config.appliesTo ordinal = true) :
    (∀ spec after, mutate config ordinal spec = after ↔
      IsMounted ordinal config.value spec after) ∧
    (∀ volume after, qualifyVolume ordinal volume = after ↔ IsQualified ordinal volume after) ∧
    ∀ annotations, declared? annotations = .ok (some config) → ∀ spec,
      Feature.mountVolume.apply annotations ordinal spec =
        (mutate config ordinal spec, .ok .applied) := by
  refine ⟨fun spec after => ?_, fun volume after => isQualified_iff.symm,
    fun annotations hdeclared spec => ?_⟩
  · have hmounted : IsMounted ordinal config.value spec (mutate config ordinal spec) := by
      rw [mutate, if_pos happlies]
      exact isMounted_apply config.value spec
    exact ⟨fun h => h ▸ hmounted, fun h => hmounted.unique h⟩
  · simp [Feature.apply, hdeclared, Feature.applyDeclared, happlies]

def twofold : Config where
  volumes := [
    { name := "v", configMap := some { name := "app-1" }, secret := some { secretName := some "s" } },
    { emptyDir := some {}, secret := some { secretName := some "" } }]
  containers := [{ name := "a", volumeMounts := [{ name := "v", mountPath := "/v" }] },
    { name := "b" }, { name := "a", volumeMounts := [{ name := "w" }] }]

def declaringTwofold : Annotations.Collection :=
  .ofList [(⟨"mount-volume", "2-"⟩, r#"{
    "volumes": [
      {"name": "v", "configMap": {"name": "app-1"}, "secret": {"secretName": "s"}},
      {"emptyDir": {}, "secret": {"secretName": ""}}],
    "containers": [
      {"name": "a", "volumeMounts": [{"name": "v", "mountPath": "/v"}]},
      {"name": "b"},
      {"name": "a", "volumeMounts": [{"name": "w"}]}]}"#)]

def unfurnished : PodSpec where
  containers := [{ name := "a", volumeMounts := some [{ name := "own" }] }, { name := "a" },
    { name := "b" }, { name := "c" }]

def furnishedAtTwelve : PodSpec where
  volumes := some [
    { name := "v", configMap := some { name := "app-1-12" },
      secret := some { secretName := some "s-12" } },
    { emptyDir := some {}, secret := some { secretName := some "" } }]
  containers := [
    { name := "a",
      volumeMounts := some [{ name := "own" }, { name := "v", mountPath := "/v" }, { name := "w" }] },
    { name := "a", volumeMounts := some [{ name := "v", mountPath := "/v" }, { name := "w" }] },
    { name := "b", volumeMounts := some [] }, { name := "c" }]

theorem mounted_of_mutate_twofold :
    Qualified.appliesTo ⟨"2-", twofold⟩ 12 = true ∧
    declared? declaringTwofold = .ok (some ⟨"2-", twofold⟩) ∧
    mutate ⟨"2-", twofold⟩ 12 unfurnished = furnishedAtTwelve ∧
    IsMounted 12 twofold unfurnished furnishedAtTwelve ∧
    Feature.mountVolume.apply declaringTwofold 12 unfurnished =
      (furnishedAtTwelve, .ok .applied) := by
  have happlies : Qualified.appliesTo ⟨"2-", twofold⟩ 12 = true := by decide +kernel
  have hdeclared : declared? declaringTwofold = .ok (some ⟨"2-", twofold⟩) := by decide +kernel
  have hmutate : mutate ⟨"2-", twofold⟩ 12 unfurnished = furnishedAtTwelve := by decide +kernel
  obtain ⟨hmounted, -, happlied⟩ := mounted_of_mutate ⟨"2-", twofold⟩ 12 happlies
  refine ⟨happlies, hdeclared, hmutate, (hmounted _ _).mp hmutate, ?_⟩
  rw [happlied _ hdeclared, hmutate]

end OrdinalAdmission.MountVolume
