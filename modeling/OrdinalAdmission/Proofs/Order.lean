import OrdinalAdmission.Proofs.Failure

/-!
# The order of the features does not matter

The two features extend different lists, and both go by the names of the containers, which neither
changes; so their reshapings commute (`Feature.reshape_comm`). Failure is settled by the spec as it
came. Pipelines that differ in the order of their features only therefore come to the same outcome,
up to which of several errors is reported and in which order the features are listed.
-/

namespace OrdinalAdmission

open Kube

namespace Feature

theorem furnish_dress (ordinal : UInt32) (ports : List HostPort.Entry)
    (mounts : List MountVolume.Entry) (container : Container) :
    MountVolume.furnish mounts (HostPort.dress ordinal ports container) =
      HostPort.dress ordinal ports (MountVolume.furnish mounts container) := rfl

theorem reshape_comm (annotations : Annotations.Collection) (ordinal : UInt32)
    (first second : Feature) (spec : PodSpec) :
    second.reshape annotations ordinal (first.reshape annotations ordinal spec) =
      first.reshape annotations ordinal (second.reshape annotations ordinal spec) := by
  cases first <;> cases second
  · rfl
  · simp [reshape, Function.comp_def, furnish_dress]
  · simp [reshape, Function.comp_def, furnish_dress]
  · rfl

theorem foldl_reshape_perm (annotations : Annotations.Collection) (ordinal : UInt32)
    {first second : List Feature} (h : first.Perm second) (spec : PodSpec) :
    first.foldl (fun spec feature => feature.reshape annotations ordinal spec) spec =
      second.foldl (fun spec feature => feature.reshape annotations ordinal spec) spec :=
  h.foldl_eq' (fun a _ b _ spec => reshape_comm annotations ordinal a b spec) spec

end Feature

/-- The outcomes are of one kind and agree in all but the order of the features with an effect and
the choice of the failure that is reported. -/
inductive Outcome.Alike : Outcome → Outcome → Prop where
  | notStatefulSet (reason : IdentityError) : Alike (.notStatefulSet reason) (.notStatefulSet reason)
  | mutated (identity : Identity) (pod : Pod) {first second : List Feature} :
      first.Perm second → Alike (.mutated identity pod first) (.mutated identity pod second)
  | failed (identity : Identity) (first second : Feature) (one other : MutationError) :
      Alike (.failed identity first one) (.failed identity second other)

theorem Outcome.Alike.admitted_eq {one other : Outcome} (h : one.Alike other) (pod : Pod) :
    one.admitted pod = other.admitted pod := by
  cases h <;> rfl

namespace Pipeline

theorem applyFeatures_perm (annotations : Annotations.Collection) (ordinal : UInt32)
    {first second : List Feature} (h : first.Perm second) (spec : PodSpec) :
    (∃ one other, applyFeatures annotations ordinal first spec = .error one ∧
      applyFeatures annotations ordinal second spec = .error other) ∨
    ∃ left one other, applyFeatures annotations ordinal first spec = .ok (left, one) ∧
      applyFeatures annotations ordinal second spec = .ok (left, other) ∧ one.Perm other := by
  have hfails : (∃ failed, applyFeatures annotations ordinal first spec = .error failed) ↔
      ∃ failed, applyFeatures annotations ordinal second spec = .error failed := by
    simp only [applyFeatures_fails_iff, h.mem_iff]
  cases hone : applyFeatures annotations ordinal first spec with
  | error one =>
    obtain ⟨other, hother⟩ := hfails.mp ⟨one, hone⟩
    exact .inl ⟨one, other, rfl, hother⟩
  | ok result =>
    cases hother : applyFeatures annotations ordinal second spec with
    | error other =>
      obtain ⟨one, hfailed⟩ := hfails.mpr ⟨other, hother⟩
      rw [hone] at hfailed
      cases hfailed
    | ok result' =>
      obtain ⟨hleft, happlied⟩ := applyFeatures_ok hone
      obtain ⟨hleft', happlied'⟩ := applyFeatures_ok hother
      refine .inr ⟨result.1, result.2, result'.2, rfl, ?_, ?_⟩
      · rw [hleft, Feature.foldl_reshape_perm annotations ordinal h, ← hleft']
      · rw [happlied, happlied']
        exact h.filter _

/-- Pipelines that differ only in the order of their features come to like outcomes on every pod
and admit the same pod. -/
theorem admitted_of_perm (first second : Pipeline) (hi : first.identifier = second.identifier)
    (hs : first.scheme = second.scheme) (hf : first.features.Perm second.features) (pod : Pod) :
    (first.run pod).Alike (second.run pod) ∧ first.admitted pod = second.admitted pod := by
  have halike : (first.run pod).Alike (second.run pod) := by
    cases hid : first.identifier.identify pod.metadata with
    | error reason =>
      have hid' : second.identifier.identify pod.metadata = .error reason := hi ▸ hid
      rw [run_eq_notStatefulSet_iff.mpr hid, run_eq_notStatefulSet_iff.mpr hid']
      exact .notStatefulSet reason
    | ok identity =>
      have hid' : second.identifier.identify pod.metadata = .ok identity := hi ▸ hid
      cases hspec : pod.spec with
      | none =>
        rw [run_of_no_spec hid hspec, run_of_no_spec hid' hspec]
        exact .mutated identity pod (.refl _)
      | some spec =>
        rcases applyFeatures_perm (first.scheme.collect pod.metadata) identity.ordinal hf spec with
          ⟨one, other, hone, hother⟩ | ⟨left, one, other, hone, hother, hperm⟩
        · rw [run_of_error hid hspec hone, run_of_error hid' hspec (hs ▸ hother)]
          exact .failed identity one.1 other.1 one.2 other.2
        · rw [run_of_ok hid hspec hone, run_of_ok hid' hspec (hs ▸ hother)]
          exact .mutated identity _ hperm
  exact ⟨halike, halike.admitted_eq pod⟩

def twoFeatures : Pod :=
  { metadata := { annotations := some (.ofList [
      ("spoditor.io/host-port", r#"{"containers": [{"name": "a", "ports": [{"hostPort": 1}]}]}"#),
      ("spoditor.io/mount-volume", r#"{"volumes": [{}], "containers": [{"name": "a"}]}"#)]) }
    spec := some { containers := [{ name := "a" }] } }

def portsFirst : Pipeline :=
  { identifier := .fixed ⟨"a", 2⟩, features := [.hostPort, .mountVolume, .hostPort] }

def portsLast : Pipeline :=
  { identifier := .fixed ⟨"a", 2⟩, features := [.mountVolume, .hostPort, .hostPort] }

theorem admitted_of_perm_two_features :
    portsFirst.identifier = portsLast.identifier ∧ portsFirst.scheme = portsLast.scheme ∧
      portsFirst.features.Perm portsLast.features ∧
      (portsFirst.run twoFeatures).applied = [.hostPort, .mountVolume, .hostPort] ∧
      (portsFirst.run twoFeatures).Alike (portsLast.run twoFeatures) ∧
      portsFirst.admitted twoFeatures = portsLast.admitted twoFeatures := by
  have hperm : portsFirst.features.Perm portsLast.features := .swap ..
  have happlied : (portsFirst.run twoFeatures).applied = [.hostPort, .mountVolume, .hostPort] := by
    decide +kernel
  exact ⟨rfl, rfl, hperm, happlied, admitted_of_perm portsFirst portsLast rfl rfl hperm twoFeatures⟩

end Pipeline

end OrdinalAdmission
