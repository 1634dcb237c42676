import OrdinalAdmission.Proofs.Declaration
import OrdinalAdmission.Proofs.Failure

/-!
# What has a say in an admission

A feature looks at the annotations collected for it, at the ordinal and at the spec. Two pods that
agree on these come to the same end under a pipeline, whatever else their annotations hold and
whichever StatefulSets they belong to.
-/

namespace OrdinalAdmission

open Kube

theorem Feature.apply_congr {one other : Annotations.Collection} {feature : Feature}
    (h : one.forFeature feature.name = other.forFeature feature.name) (ordinal : UInt32)
    (spec : PodSpec) : feature.apply one ordinal spec = feature.apply other ordinal spec := by
  have hdeclared : ∀ {α : Type} (codec : Codec α),
      feature.declared? codec one = feature.declared? codec other := by
    intro α codec
    rw [declared?, Annotations.Collection.declared?_congr h, ← declared?]
  cases feature with
  | hostPort => simp only [apply, HostPort.declared?, hdeclared]
  | mountVolume => simp only [apply, MountVolume.declared?, hdeclared]

namespace Pipeline

theorem applyFeatures_congr {one other : Annotations.Collection} {features : List Feature}
    (h : ∀ feature ∈ features, one.forFeature feature.name = other.forFeature feature.name)
    (ordinal : UInt32) (spec : PodSpec) :
    applyFeatures one ordinal features spec = applyFeatures other ordinal features spec := by
  induction features generalizing spec with
  | nil => rfl
  | cons feature rest ih =>
    have hfeature := Feature.apply_congr (h feature List.mem_cons_self) ordinal spec
    have hrest := ih fun other ho => h other (List.mem_cons_of_mem _ ho)
    simp only [applyFeatures, hfeature, hrest]

/-- Two pods with one ordinal and one spec, whose annotations agree on every key that spells the
name of a listed feature, fail with the same feature and error or get the same spec by the same
features. -/
theorem outcome_of_agree (pipeline : Pipeline) (one other : Pod) {first second : Identity}
    (hone : pipeline.identifier.identify one.metadata = .ok first)
    (hother : pipeline.identifier.identify other.metadata = .ok second)
    (hordinal : first.ordinal = second.ordinal) (hspec : one.spec = other.spec)
    (hagree : ∀ key name, pipeline.scheme.nameOf? key = some name →
      (∃ feature ∈ pipeline.features, name.feature = feature.name) →
      one.metadata.annotation? key = other.metadata.annotation? key) :
    (∃ feature error, pipeline.run one = .failed first feature error ∧
      pipeline.run other = .failed second feature error) ∨
    ∃ spec applied, pipeline.run one = .mutated first { one with spec := spec } applied ∧
      pipeline.run other = .mutated second { other with spec := spec } applied := by
  cases hs : one.spec with
  | none =>
    rw [run_of_no_spec hone hs, run_of_no_spec hother (hspec ▸ hs)]
    refine .inr ⟨none, [], ?_, ?_⟩
    · rw [← hs]
    · rw [← hs, hspec]
  | some spec =>
    have hcollected : ∀ feature ∈ pipeline.features,
        (pipeline.scheme.collect one.metadata).forFeature feature.name =
          (pipeline.scheme.collect other.metadata).forFeature feature.name :=
      fun feature hf => pipeline.scheme.forFeature_collect_congr fun key name hname hfeature =>
        hagree key name hname ⟨feature, hf, hfeature⟩
    have hsame := applyFeatures_congr hcollected first.ordinal spec
    cases h : applyFeatures (pipeline.scheme.collect one.metadata) first.ordinal
        pipeline.features spec with
    | error failed =>
      rw [h, hordinal] at hsame
      exact .inl ⟨failed.1, failed.2, run_of_error hone hs h,
        run_of_error hother (hspec ▸ hs) hsame.symm⟩
    | ok result =>
      rw [h, hordinal] at hsame
      exact .inr ⟨some result.1, result.2, run_of_ok hone hs h,
        run_of_ok hother (hspec ▸ hs) hsame.symm⟩

def portReplica (statefulSet : String) (others : TextMap) : Pod :=
  { metadata :=
      { annotations := some (others.insert "spoditor.io/host-port"
          r#"{"containers": [{"name": "a", "ports": [{"hostPort": 1}]}]}"#)
        labels := some (.ofList [(podNameLabel, statefulSet ++ "-3")]) }
    spec := some { containers := [{ name := "a" }] } }

def unread : TextMap := .insert ∅ "spoditor.io/mount-volume" "["

def portsOnly : Pipeline := { features := [.hostPort] }

theorem outcome_of_agree_unread_annotation :
    portsOnly.identifier.identify (portReplica "web" ∅).metadata = .ok ⟨"web", 3⟩ ∧
    portsOnly.identifier.identify (portReplica "db" unread).metadata = .ok ⟨"db", 3⟩ ∧
    (portsOnly.run (portReplica "web" ∅)).applied = [.hostPort] ∧
    ((∃ feature error, portsOnly.run (portReplica "web" ∅) = .failed ⟨"web", 3⟩ feature error ∧
        portsOnly.run (portReplica "db" unread) = .failed ⟨"db", 3⟩ feature error) ∨
      ∃ spec applied, portsOnly.run (portReplica "web" ∅) =
          .mutated ⟨"web", 3⟩ { portReplica "web" ∅ with spec := spec } applied ∧
        portsOnly.run (portReplica "db" unread) =
          .mutated ⟨"db", 3⟩ { portReplica "db" unread with spec := spec } applied) := by
  have hweb : portsOnly.identifier.identify (portReplica "web" ∅).metadata = .ok ⟨"web", 3⟩ := by
    decide +kernel
  have hdb : portsOnly.identifier.identify (portReplica "db" unread).metadata =
      .ok ⟨"db", 3⟩ := by
    decide +kernel
  refine ⟨hweb, hdb, by decide +kernel, outcome_of_agree portsOnly _ _ hweb hdb rfl rfl ?_⟩
  rintro key name hname ⟨feature, hlisted, hfeature⟩
  obtain rfl : feature = .hostPort := List.mem_singleton.mp hlisted
  have hkey : key ≠ "spoditor.io/mount-volume" := by
    rintro rfl
    have hspelled : portsOnly.scheme.nameOf? "spoditor.io/mount-volume" =
        some ⟨"mount-volume", ""⟩ := by decide +kernel
    rw [hspelled] at hname
    obtain rfl := Option.some.inj hname
    exact absurd hfeature (by decide)
  have hunread : unread.get? key = (∅ : TextMap).get? key := by
    rw [unread, SortedMap.get?_insert, if_neg hkey]
  simp only [Metadata.annotation?, portReplica, Option.bind_some, SortedMap.get?_insert, hunread]

end Pipeline

end OrdinalAdmission
