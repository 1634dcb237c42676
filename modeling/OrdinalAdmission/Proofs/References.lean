import OrdinalAdmission.Proofs.Expansion
import OrdinalAdmission.Proofs.Preview

/-!
# References of one ordinal

A reference is made that of an ordinal in the way in which a pod's name is made from its set's, so it
can be cut again where the declared name ends: references that come from different names, or are for
different ordinals, are different. Two admitted pods with different ordinals therefore share no
ConfigMap and no Secret that was written for either of them.
-/

namespace OrdinalAdmission

open Kube

-- ---------------------------------------------------------------------------
-- What volumes refer to
-- ---------------------------------------------------------------------------

/-- What a volume can refer to by a name. -/
inductive ReferenceKind where
  | configMap
  | secret

def Kube.Volume.reference? (volume : Volume) : ReferenceKind → Option String
  | .configMap => volume.configMap.map (·.name)
  | .secret => volume.secret.bind (·.secretName)

namespace MountVolume

section
variable {kind : ReferenceKind} {ordinal first second : UInt32} {name : String}

theorem reference?_qualifyVolume (volume : Volume) :
    (qualifyVolume ordinal volume).reference? kind =
      (volume.reference? kind).map (ordinalName ordinal) := by
  cases kind with
  | configMap => cases h : volume.configMap <;> simp [Volume.reference?, qualifyVolume, h]
  | secret => cases h : volume.secret <;> simp [Volume.reference?, qualifyVolume, h]

theorem ordinalName_eq_podName (h : name ≠ "") :
    ordinalName ordinal name = Manifest.podName name ordinal.toNat := by
  simp [ordinalName, Manifest.podName, h]

theorem ordinalName_inj {other : String} (hname : name ≠ "") (hother : other ≠ "") :
    ordinalName first name = ordinalName second other ↔ name = other ∧ first = second := by
  rw [ordinalName_eq_podName hname, ordinalName_eq_podName hother, Manifest.podName_inj,
    UInt32.toNat_inj]

theorem ofPodName_ordinalName (hname : name ≠ "") (hline : '\n' ∉ name.toList) :
    Identity.ofPodName (ordinalName ordinal name) = .ok ⟨name, ordinal⟩ := by
  rw [ordinalName_eq_podName hname, Identity.ofPodName_podName hname hline ordinal.toNat_lt_size,
    UInt32.ofNat_toNat]

end

end MountVolume

-- ---------------------------------------------------------------------------
-- What admitted pods refer to
-- ---------------------------------------------------------------------------

namespace Pipeline

def addedReferences (kind : ReferenceKind) (requested admitted : Pod) : List String :=
  ((Preview.volumes admitted).drop (Preview.volumes requested).length).filterMap
    (·.reference? kind)

theorem exists_declared_of_added {pipeline : Pipeline} {pod left : Pod} {identity : Identity}
    {applied : List Feature} (h : pipeline.run pod = .mutated identity left applied)
    {kind : ReferenceKind} {written : String} (hm : written ∈ addedReferences kind pod left)
    (hne : written ≠ "") :
    ∃ name, name ≠ "" ∧ written = MountVolume.ordinalName identity.ordinal name := by
  rw [addedReferences, Preview.volumes_of_mutates (mutates_of_run h), List.drop_left] at hm
  obtain ⟨after, hafter, hwritten⟩ := List.mem_filterMap.mp hm
  obtain ⟨volume, -, rfl⟩ := List.mem_map.mp hafter
  rw [MountVolume.reference?_qualifyVolume] at hwritten
  obtain ⟨name, -, rfl⟩ := Option.map_eq_some_iff.mp hwritten
  refine ⟨name, ?_, rfl⟩
  rintro rfl
  exact hne rfl

end Pipeline

/-- References never collide. Two names that volumes refer to are written alike exactly when they are
one name and the ordinals are the same. What is written can be read again as the name and the
ordinal, where the name is one that the pattern for pods allows. So nothing that was written for an
admitted pod was also written for one with another ordinal. -/
theorem references_never_collide :
    (∀ (kind : ReferenceKind) (one other : Volume) (name name' : String) (first second : UInt32),
      name ≠ "" → name' ≠ "" → one.reference? kind = some name →
      other.reference? kind = some name' →
      ((MountVolume.qualifyVolume first one).reference? kind =
          (MountVolume.qualifyVolume second other).reference? kind ↔
        name = name' ∧ first = second)) ∧
    (∀ (kind : ReferenceKind) (volume : Volume) (name : String) (ordinal : UInt32),
      name ≠ "" → '\n' ∉ name.toList → volume.reference? kind = some name →
      ∃ written, (MountVolume.qualifyVolume ordinal volume).reference? kind = some written ∧
        Identity.ofPodName written = .ok ⟨name, ordinal⟩) ∧
    ∀ (pipeline pipeline' : Pipeline) (one other left right : Pod) (first second : Identity)
      (applied applied' : List Feature), pipeline.run one = .mutated first left applied →
      pipeline'.run other = .mutated second right applied' → first.ordinal ≠ second.ordinal →
      ∀ kind, ∀ written ∈ Pipeline.addedReferences kind one left, written ≠ "" →
        written ∉ Pipeline.addedReferences kind other right := by
  refine ⟨?_, ?_, ?_⟩
  · intro kind one other name name' first second hname hname' hone hother
    rw [MountVolume.reference?_qualifyVolume, MountVolume.reference?_qualifyVolume, hone, hother,
      Option.map_some, Option.map_some, Option.some_inj, MountVolume.ordinalName_inj hname hname']
  · intro kind volume name ordinal hname hline hvolume
    refine ⟨MountVolume.ordinalName ordinal name, ?_, MountVolume.ofPodName_ordinalName hname hline⟩
    rw [MountVolume.reference?_qualifyVolume, hvolume, Option.map_some]
  · intro pipeline pipeline' one other left right first second applied applied' hone hother hne kind
      written hm hwritten hm'
    obtain ⟨name, hname, rfl⟩ := Pipeline.exists_declared_of_added hone hm hwritten
    obtain ⟨name', hname', hsame⟩ := Pipeline.exists_declared_of_added hother hm' hwritten
    exact hne ((MountVolume.ordinalName_inj hname hname').mp hsame).2

def referring (podName : String) : Pod where
  metadata := {
    annotations := some (.ofList [("spoditor.io/mount-volume",
      r#"{"volumes": [{"configMap": {"name": "app"}, "secret": {"secretName": "app-1"}}]}"#)])
    labels := some (.ofList [(podNameLabel, podName)]) }
  spec := some {}

theorem references_never_collide_app :
    let one : Volume := { configMap := some { name := "app-1" } }
    let other : Volume := { configMap := some { name := "app" } }
    (MountVolume.qualifyVolume 2 one).reference? .configMap = some "app-1-2" ∧
    (MountVolume.qualifyVolume 2 one).reference? .configMap ≠
      (MountVolume.qualifyVolume 12 other).reference? .configMap ∧
    Identity.ofPodName "app-1-2" = .ok ⟨"app-1", 2⟩ ∧
    ∃ left right, Pipeline.standard.run (referring "web-2") =
        .mutated ⟨"web", 2⟩ left [.mountVolume] ∧
      Pipeline.standard.run (referring "web-12") = .mutated ⟨"web", 12⟩ right [.mountVolume] ∧
      "app-2" ∈ Pipeline.addedReferences .configMap (referring "web-2") left ∧
      "app-2" ∉ Pipeline.addedReferences .configMap (referring "web-12") right := by
  intro one other
  obtain ⟨hwritten, hread, hadmitted⟩ := references_never_collide
  have hone : (MountVolume.qualifyVolume 2 one).reference? .configMap = some "app-1-2" := by
    decide +kernel
  have hapart := hwritten .configMap one other "app-1" "app" 2 12 (by decide) (by decide) rfl rfl
  obtain ⟨written, hsame, hidentity⟩ :=
    hread .configMap one "app-1" 2 (by decide) (by decide) rfl
  obtain rfl := Option.some.inj (hone.symm.trans hsame)
  have hleft : Pipeline.standard.run (referring "web-2") =
      .mutated ⟨"web", 2⟩ (Pipeline.standard.admitted (referring "web-2")) [.mountVolume] := by
    decide +kernel
  have hright : Pipeline.standard.run (referring "web-12") =
      .mutated ⟨"web", 12⟩ (Pipeline.standard.admitted (referring "web-12")) [.mountVolume] := by
    decide +kernel
  have hadded : "app-2" ∈ Pipeline.addedReferences .configMap (referring "web-2")
      (Pipeline.standard.admitted (referring "web-2")) := by
    decide +kernel
  refine ⟨hone, fun h => absurd (hapart.mp h).1 (by decide), hidentity, _, _, hleft, hright, hadded,
    ?_⟩
  exact hadmitted _ _ _ _ _ _ _ _ _ _ hleft hright (by decide) .configMap _ hadded (by decide)

end OrdinalAdmission
