import Mathlib.Data.List.Forall2
import Mathlib.Data.List.Nodup
import OrdinalAdmission.Proofs.Placing
import OrdinalAdmission.Proofs.Run

/-!
# No names are repeated anew

A port or a variable is only added where its name is missing, so no name becomes more frequent in a
container than it was, unless it was missing and is there once afterwards. That holds of one
reshaping, hence of a whole run, whatever the configurations on the way repeat.
-/

namespace OrdinalAdmission

open Kube

/-- The names of the ports, among them the absent name. -/
def portNames (container : Container) : List (Option String) :=
  (container.ports.getD []).map (·.name)

def variableNames (container : Container) : List String :=
  (container.env.getD []).map (·.name)

/-- No name is more frequent than it was, but for names that were missing and are there once. -/
def NoMoreRepeats {κ : Type} [DecidableEq κ] (old new : List κ) : Prop :=
  ∀ name, new.count name ≤ max 1 (old.count name)

namespace NoMoreRepeats

variable {κ : Type} [DecidableEq κ]

theorem refl (names : List κ) : NoMoreRepeats names names :=
  fun _ => Nat.le_max_right _ _

theorem trans {first second third : List κ} (hone : NoMoreRepeats first second)
    (htwo : NoMoreRepeats second third) : NoMoreRepeats first third := by
  intro name
  have hfirst := hone name
  have hsecond := htwo name
  omega

theorem nodup {old new : List κ} (h : NoMoreRepeats old new) (hold : old.Nodup) : new.Nodup := by
  rw [List.nodup_iff_count_le_one] at hold ⊢
  intro name
  have hnew := h name
  have honce := hold name
  omega

end NoMoreRepeats

structure NamesRespected (old new : Container) : Prop where
  ports : NoMoreRepeats (portNames old) (portNames new)
  env : NoMoreRepeats (variableNames old) (variableNames new)

namespace NamesRespected

theorem refl (container : Container) : NamesRespected container container where
  ports := .refl _
  env := .refl _

theorem trans {first second third : Container} (hone : NamesRespected first second)
    (htwo : NamesRespected second third) : NamesRespected first third where
  ports := hone.ports.trans htwo.ports
  env := hone.env.trans htwo.env

theorem dress (ordinal : UInt32) (entries : List HostPort.Entry) (container : Container) :
    NamesRespected container (HostPort.dress ordinal entries container) where
  ports name := by
    have hplaced : portNames (HostPort.dress ordinal entries container) =
        (HostPort.portPlacing.placeAll (HostPort.boundIn ordinal container.name entries)
          (container.ports.getD [])).map HostPort.portPlacing.key :=
      congrArg (List.map _) (Placing.getD_updates HostPort.bindIn_eq_place _ container.ports)
    rw [hplaced]
    exact HostPort.portPlacing.count_placeAll_le _ name _
  env name := by
    have hplaced : variableNames (HostPort.dress ordinal entries container) =
        (HostPort.variablePlacing.placeAll (HostPort.toldTo ordinal container.name entries)
          (container.env.getD [])).map HostPort.variablePlacing.key :=
      congrArg (List.map _) (Placing.getD_updates HostPort.setVariable_eq_place _ container.env)
    rw [hplaced]
    exact HostPort.variablePlacing.count_placeAll_le _ name _

theorem furnish (entries : List MountVolume.Entry) (container : Container) :
    NamesRespected container (MountVolume.furnish entries container) where
  ports := .refl (portNames container)
  env := .refl (variableNames container)

theorem trans_all {first second third : List Container}
    (hone : List.Forall₂ NamesRespected first second)
    (htwo : List.Forall₂ NamesRespected second third) :
    List.Forall₂ NamesRespected first third := by
  induction hone generalizing third with
  | nil => exact htwo
  | cons hr hrest ih =>
    cases htwo with
    | cons hr' hrest' => exact .cons (hr.trans hr') (ih hrest')

theorem respected : Respected fun old new : PodSpec =>
    List.Forall₂ NamesRespected old.containers new.containers where
  refl _ := List.forall₂_same.mpr fun container _ => refl container
  trans := trans_all
  reshape annotations ordinal feature spec := by
    cases feature with
    | hostPort =>
      rw [Feature.reshape, List.forall₂_map_right_iff, List.forall₂_same]
      exact fun container _ => dress ordinal _ container
    | mountVolume =>
      rw [Feature.reshape, List.forall₂_map_right_iff, List.forall₂_same]
      exact fun container _ => furnish _ container

end NamesRespected

/-- Over a whole run of admissions by any pipelines and of edits to the metadata, a pod keeps its
containers in number and order, and no port name and no variable name becomes more frequent in one of
them, unless it was missing and is there once. Distinct names therefore stay distinct. -/
theorem run_repeats_no_name (steps : List Step) (pod : Pod) :
    Option.Rel (fun old new : PodSpec => List.Forall₂ (fun before after : Container =>
        NoMoreRepeats (variableNames before) (variableNames after) ∧
        NoMoreRepeats (portNames before) (portNames after) ∧
        ((variableNames before).Nodup → (variableNames after).Nodup) ∧
        ((portNames before).Nodup → (portNames after).Nodup))
      old.containers new.containers) pod.spec (Step.performAll steps pod).spec := by
  refine rel_mono (fun old new hall => ?_) (NamesRespected.respected.run steps pod)
  refine hall.imp fun before after hnames => ?_
  exact ⟨hnames.env, hnames.ports, hnames.env.nodup, hnames.ports.nodup⟩

end OrdinalAdmission
