import OrdinalAdmission.Proofs.Demand
import OrdinalAdmission.Proofs.Failure
import OrdinalAdmission.Proofs.Placing

/-!
# Admitting a pod again

Ports and variables are placed by name, so placing them in what came of it changes nothing, however
often a configuration repeats a name. Volumes and mounts are appended, so they are appended again.
Whether and how an admission fails is settled by what no admission changes, so the second admission
takes the course of the first.
-/

namespace OrdinalAdmission

open Kube

-- ---------------------------------------------------------------------------
-- Lists that grow
-- ---------------------------------------------------------------------------

/-- What the first growth appended is appended once more, and a list that is absent after the first
growth stays absent. -/
def Regrown {α : Type} (before once twice : Option (List α)) : Prop :=
  ∃ more, once.getD [] = before.getD [] ++ more ∧ twice.getD [] = once.getD [] ++ more ∧
    (twice = none ↔ once = none)

section
variable {α β : Type} (f : α → List β) (items : List α) (list : Option (List β))

theorem regrown_updates :
    Regrown list (updates (fun item list => list ++ f item) items list)
      (updates (fun item list => list ++ f item) items
        (updates (fun item list => list ++ f item) items list)) := by
  refine ⟨items.flatMap f, getD_updates_append f items list, getD_updates_append f items _, ?_⟩
  cases items with
  | nil => rfl
  | cons item rest => simp [updates]

end

-- ---------------------------------------------------------------------------
-- A demand that is met again
-- ---------------------------------------------------------------------------

theorem HostPort.dress_dress (ordinal : UInt32) (entries : List Entry) (container : Container) :
    dress ordinal entries (dress ordinal entries container) = dress ordinal entries container := by
  simp only [dress, Placing.updates_updates bindIn_eq_place,
    Placing.updates_updates setVariable_eq_place]

/-- The second spec differs from the first only by volumes and mounts, and these are appended to it
as they were appended to the first. -/
structure GrownAgain (spec once twice : PodSpec) : Prop where
  others : twice = { once with volumes := twice.volumes, containers := twice.containers }
  volumes : Regrown spec.volumes once.volumes twice.volumes
  length : once.containers.length = spec.containers.length ∧
    twice.containers.length = spec.containers.length
  containers : ∀ (i : Nat) container, spec.containers[i]? = some container →
    ∃ first second, once.containers[i]? = some first ∧ twice.containers[i]? = some second ∧
      second = { first with volumeMounts := second.volumeMounts } ∧
      Regrown container.volumeMounts first.volumeMounts second.volumeMounts

namespace Demand

variable (demand : Demand) (ordinal : UInt32)

theorem outfit_outfit (container : Container) :
    demand.outfit ordinal (demand.outfit ordinal container) =
      MountVolume.furnish demand.mounts (demand.outfit ordinal container) := by
  have hcomm : demand.outfit ordinal (demand.outfit ordinal container) =
      MountVolume.furnish demand.mounts (MountVolume.furnish demand.mounts
        (HostPort.dress ordinal demand.ports (HostPort.dress ordinal demand.ports container))) :=
    rfl
  rw [hcomm, HostPort.dress_dress]
  rfl

theorem containers_meet_meet (spec : PodSpec) :
    (demand.meet ordinal (demand.meet ordinal spec)).containers =
      (demand.meet ordinal spec).containers.map (MountVolume.furnish demand.mounts) := by
  simp only [meet, List.map_map]
  exact List.map_congr_left fun container _ => demand.outfit_outfit ordinal container

theorem meet_meet_of_ports_only (hvolumes : demand.volumes = []) (hmounts : demand.mounts = [])
    (spec : PodSpec) :
    demand.meet ordinal (demand.meet ordinal spec) = demand.meet ordinal spec := by
  have hcontainers := demand.containers_meet_meet ordinal spec
  have hid : MountVolume.furnish [] = id := rfl
  rw [hmounts, hid, List.map_id] at hcontainers
  have hmet : demand.meet ordinal (demand.meet ordinal spec) =
      { demand.meet ordinal spec with
        volumes := (demand.meet ordinal (demand.meet ordinal spec)).volumes
        containers := (demand.meet ordinal (demand.meet ordinal spec)).containers } := rfl
  rw [hmet, hcontainers]
  simp only [meet, hvolumes, updates_nil]

theorem grownAgain_meet (spec : PodSpec) :
    GrownAgain spec (demand.meet ordinal spec) (demand.meet ordinal (demand.meet ordinal spec)) where
  others := rfl
  volumes := regrown_updates _ demand.volumes spec.volumes
  length := by simp [meet]
  containers i container hi := by
    refine ⟨demand.outfit ordinal container,
      demand.outfit ordinal (demand.outfit ordinal container), ?_, ?_, ?_, ?_⟩
    · simp [meet, hi]
    · simp [meet, hi]
    · rw [outfit_outfit]
      rfl
    · rw [outfit_outfit]
      exact regrown_updates _ _ container.volumeMounts

end Demand

-- ---------------------------------------------------------------------------
-- A run on what a run made
-- ---------------------------------------------------------------------------

/-- The second outcome is of the kind of the first, with the same features or the same error. -/
inductive Outcome.Repeated : Outcome → Outcome → Prop where
  | notStatefulSet (reason : IdentityError) :
      Repeated (.notStatefulSet reason) (.notStatefulSet reason)
  | mutated (identity : Identity) (first second : Pod) (applied : List Feature) :
      Repeated (.mutated identity first applied) (.mutated identity second applied)
  | failed (identity : Identity) (feature : Feature) (error : MutationError) :
      Repeated (.failed identity feature error) (.failed identity feature error)

theorem Outcome.Repeated.refl (outcome : Outcome) : outcome.Repeated outcome := by
  cases outcome with
  | notStatefulSet reason => exact .notStatefulSet reason
  | mutated identity pod applied => exact .mutated identity pod pod applied
  | failed identity feature error => exact .failed identity feature error

namespace Pipeline

theorem applyFeatures_again {annotations : Annotations.Collection} {ordinal : UInt32}
    {features : List Feature} {spec left : PodSpec} {applied : List Feature}
    (h : applyFeatures annotations ordinal features spec = .ok (left, applied)) :
    left = (demandOf annotations ordinal features).meet ordinal spec ∧
      applyFeatures annotations ordinal features left =
        .ok ((demandOf annotations ordinal features).meet ordinal left, applied) := by
  obtain ⟨hleft, happlied⟩ := applyFeatures_ok h
  rw [foldl_reshape] at hleft
  have hnames : left.containers.map (·.name) = spec.containers.map (·.name) := by
    rw [hleft, Demand.names_meet]
  -- Success is a matter of the names of the containers, and those are what they were.
  have hsucceeds := applyFeatures_succeeds_iff.mp ⟨_, h⟩
  rw [← hnames] at hsucceeds
  obtain ⟨⟨next, again⟩, hnext⟩ := applyFeatures_succeeds_iff.mpr hsucceeds
  obtain ⟨hnextLeft, hagain⟩ := applyFeatures_ok hnext
  rw [foldl_reshape] at hnextLeft
  exact ⟨hleft, by rw [hnext, hnextLeft, hagain, happlied]⟩

/-- Either nothing was changed and nothing is the second time, or one demand is met twice. -/
theorem run_admitted_cases (pipeline : Pipeline) (pod : Pod) :
    (pipeline.admitted pod = pod ∧ (pipeline.run pod).applied = []) ∨
    ∃ identity spec,
      let demand := demandOf (pipeline.scheme.collect pod.metadata) identity.ordinal
        pipeline.features
      let once := demand.meet identity.ordinal spec
      let applied := pipeline.features.filter
        (·.isInForce (pipeline.scheme.collect pod.metadata) identity.ordinal)
      pod.spec = some spec ∧
      pipeline.run pod = .mutated identity { pod with spec := some once } applied ∧
      pipeline.run { pod with spec := some once } =
        .mutated identity { pod with spec := some (demand.meet identity.ordinal once) } applied := by
  unfold admitted
  generalize hrun : pipeline.run pod = outcome
  cases course hrun with
  | notStatefulSet hid => exact .inl ⟨rfl, rfl⟩
  | bare hid hspec => exact .inl ⟨rfl, rfl⟩
  | failed hid hspec h => exact .inl ⟨rfl, rfl⟩
  | mutated hid hspec h =>
    obtain ⟨rfl, hagain⟩ := applyFeatures_again h
    obtain rfl := (applyFeatures_ok h).2
    exact .inr ⟨_, _, hspec, rfl, run_of_ok hid rfl hagain⟩

def portsAndVariables (pod : Pod) :
    Option (List (Option (List ContainerPort) × Option (List EnvVar))) :=
  pod.spec.map fun spec => spec.containers.map fun container => (container.ports, container.env)

/-- A pod that is admitted again takes the course it took. Its ports and variables stay; without the
volume feature among those with an effect the whole pod does, and with it exactly the volumes and
mounts that the first admission appended are appended once more. -/
theorem readmission (pipeline : Pipeline) (pod : Pod) :
    let once := pipeline.admitted pod
    let twice := pipeline.admitted once
    (pipeline.run pod).Repeated (pipeline.run once) ∧
    portsAndVariables twice = portsAndVariables once ∧
    (.mountVolume ∉ (pipeline.run pod).applied → twice = once) ∧
    (.mountVolume ∈ (pipeline.run pod).applied → ∃ spec first second,
      pod.spec = some spec ∧ once = { pod with spec := some first } ∧
      twice = { pod with spec := some second } ∧ GrownAgain spec first second) := by
  intro once twice
  rcases pipeline.run_admitted_cases pod with ⟨hkept, hnone⟩ | ⟨identity, spec, hspec, hone, htwo⟩
  · have honce : once = pod := hkept
    have htwice : twice = pod := (congrArg pipeline.admitted honce).trans hkept
    rw [htwice, honce, hnone]
    exact ⟨.refl _, rfl, fun _ => rfl, fun h => absurd h List.not_mem_nil⟩
  · have honce : once = _ := congrArg (Outcome.admitted pod) hone
    have htwice : twice = _ := (congrArg pipeline.admitted honce).trans
      (congrArg (Outcome.admitted _) htwo)
    rw [Outcome.admitted] at honce htwice
    rw [htwice, honce, hone, htwo, Outcome.applied]
    refine ⟨.mutated .., ?_, ?_, ?_⟩
    · simp only [portsAndVariables, Option.map_some, Demand.containers_meet_meet, List.map_map]
      rfl
    · intro h
      obtain ⟨hvolumes, hmounts⟩ := demandOf_ports_only h
      rw [Demand.meet_meet_of_ports_only _ identity.ordinal hvolumes hmounts]
    · intro _
      exact ⟨spec, _, _, hspec, rfl, rfl, Demand.grownAgain_meet _ identity.ordinal spec⟩

end Pipeline

end OrdinalAdmission
