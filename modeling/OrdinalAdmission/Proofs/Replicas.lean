import OrdinalAdmission.Proofs.Bindings
import OrdinalAdmission.Proofs.Frame
import OrdinalAdmission.Proofs.Paired

/-!
# Replicas of one template

Two pods of one template for which the same features have an effect get specs of one shape. They
differ only where the ordinal is written: in the host ports that are bound, in the values of the
variables that announce something, and in the names of the ConfigMaps and Secrets that the added
volumes refer to.
-/

namespace OrdinalAdmission

open Kube

-- ---------------------------------------------------------------------------
-- Where replicas differ
-- ---------------------------------------------------------------------------

/-- Ports that differ in the host port alone, by as much as the ordinals do. -/
def HostPortApart (first second : UInt32) (one other : ContainerPort) : Prop :=
  ∃ a b : Int32, one.hostPort = some a ∧ other = { one with hostPort := some b } ∧
    b.toInt - a.toInt = (second.toNat : Int) - first.toNat ∧ (first ≠ second → a ≠ b)

structure ValueApart (one other : EnvVar) : Prop where
  others : other = { one with value := other.value }
  present : other.value.isSome = one.value.isSome
  announces : Announces one.name ∨ other = one

structure ReferenceApart (one other : Volume) : Prop where
  others : other = { one with configMap := other.configMap, secret := other.secret }
  configMap : Option.Rel (fun a b => b = { a with name := b.name }) one.configMap other.configMap
  secret : Option.Rel (fun a b => b = { a with secretName := b.secretName } ∧
    b.secretName.isSome = a.secretName.isSome) one.secret other.secret

/-- Containers of two replicas, of which the ports with a name in `bound` are bound. -/
structure ContainerReplicas (first second : UInt32) (bound : Option String → Prop)
    (one other : Container) : Prop where
  others : other = { one with ports := other.ports, env := other.env }
  ports : Option.Rel (Paired (·.name) bound (HostPortApart first second)) one.ports other.ports
  env : Option.Rel (List.Forall₂ ValueApart) one.env other.env

/-- Specs made of one spec for two ordinals. `binds` says which port names are bound in the
containers of a name, `mounts` whether volumes are added. -/
structure SpecReplicas (first second : UInt32) (binds : String → Option String → Prop)
    (mounts : Prop) (before one other : PodSpec) : Prop where
  others : other = { one with volumes := other.volumes, containers := other.containers }
  volumes : (one.volumes = before.volumes ∧ other.volumes = before.volumes) ∨
    mounts ∧ ∃ added added', one.volumes = some (before.volumes.getD [] ++ added) ∧
      other.volumes = some (before.volumes.getD [] ++ added') ∧
      List.Forall₂ ReferenceApart added added'
  containers : List.Forall₂
    (fun a b => ContainerReplicas first second (binds a.name) a b) one.containers other.containers

-- ---------------------------------------------------------------------------
-- One demand met for two ordinals
-- ---------------------------------------------------------------------------

section
variable {first second : UInt32}

theorem hostPortApart_revise {one other : HostPort.Binding} (h : one.Apart first second other)
    (port : ContainerPort) :
    HostPortApart first second (HostPort.portPlacing.revise one port)
      (HostPort.portPlacing.revise other port) := by
  refine ⟨one.hostPort, other.hostPort, rfl, rfl, h.2, fun hne heq => hne ?_⟩
  have hapart := h.2
  rw [heq] at hapart
  exact UInt32.toNat_inj.mp (by omega)

theorem ValueApart.refl (assigned : EnvVar) : ValueApart assigned assigned where
  others := rfl
  present := rfl
  announces := .inr rfl

theorem announced_apart {found found' : List HostPort.Binding}
    (h : List.Forall₂ (HostPort.Binding.Apart first second) found found') :
    List.Forall₂ ValueApart (HostPort.announced first found)
      (HostPort.announced second found') := by
  refine .cons ⟨rfl, by simp, .inl (.inl rfl)⟩ (List.rel_map ?_ h)
  intro one other hr
  have hname : HostPort.portVariable other.port = HostPort.portVariable one.port := by rw [hr.1]
  exact ⟨by simp [hname], by simp, .inl (.inr ⟨_, rfl⟩)⟩

theorem toldTo_apart {name : String} {entries : List HostPort.Entry}
    (hfirst : ∀ entry ∈ HostPort.entriesFor name entries, entry.Fits first)
    (hsecond : ∀ entry ∈ HostPort.entriesFor name entries, entry.Fits second) :
    List.Forall₂ ValueApart (HostPort.toldTo first name entries)
      (HostPort.toldTo second name entries) :=
  forall₂_flatMap fun entry he =>
    announced_apart (HostPort.bindings_apart (hfirst entry he) (hsecond entry he))

theorem Demand.outfit_replicas {demand : Demand} {container : Container}
    (hfirst : ∀ entry ∈ HostPort.entriesFor container.name demand.ports, entry.Fits first)
    (hsecond : ∀ entry ∈ HostPort.entriesFor container.name demand.ports, entry.Fits second) :
    ContainerReplicas first second (HostPort.BindsName demand.ports container.name)
      (demand.outfit first container) (demand.outfit second container) where
  others := rfl
  ports := by
    have hpaired := Placing.paired_updates (fun _ _ hr => hr.1)
      (fun _ _ hr port => hostPortApart_revise hr port) HostPort.bindIn_eq_place
      (HostPort.boundIn_apart hfirst hsecond) container.ports
    exact rel_mono (fun _ _ h => h.congr fun _ => HostPort.exists_boundIn hfirst) hpaired
  env := by
    have hseed : ∀ one other, ValueApart one other →
        HostPort.variablePlacing.seed other = HostPort.variablePlacing.seed one := by
      intro one other hr
      have hname : other.name = one.name := by rw [hr.others]
      simp [HostPort.variablePlacing, hname]
    have hrevise : ∀ one other, ValueApart one other → ∀ entry, ValueApart
        (HostPort.variablePlacing.revise one entry) (HostPort.variablePlacing.revise other entry) :=
      fun _ _ hr _ => hr
    have hpaired := Placing.paired_updates hseed hrevise HostPort.setVariable_eq_place
      (toldTo_apart hfirst hsecond) container.env
    exact rel_mono (fun _ _ h => h.forall₂ (fun _ _ hr => hr) .refl) hpaired

theorem referenceApart_qualifyVolume (volume : Volume) :
    ReferenceApart (MountVolume.qualifyVolume first volume)
      (MountVolume.qualifyVolume second volume) where
  others := rfl
  configMap := by
    cases h : volume.configMap with
    | none => simp [MountVolume.qualifyVolume, h]
    | some source => simp [MountVolume.qualifyVolume, h]
  secret := by
    cases h : volume.secret with
    | none => simp [MountVolume.qualifyVolume, h]
    | some source => simp [MountVolume.qualifyVolume, h]

theorem Demand.meet_replicas {demand : Demand} {spec : PodSpec} {mounts : Prop}
    (hfirst : ∀ container ∈ spec.containers,
      ∀ entry ∈ HostPort.entriesFor container.name demand.ports, entry.Fits first)
    (hsecond : ∀ container ∈ spec.containers,
      ∀ entry ∈ HostPort.entriesFor container.name demand.ports, entry.Fits second)
    (hmounts : demand.volumes ≠ [] → mounts) :
    SpecReplicas first second (HostPort.BindsName demand.ports) mounts spec
      (demand.meet first spec) (demand.meet second spec) where
  others := rfl
  volumes := by
    by_cases hv : demand.volumes = []
    · exact .inl ⟨by simp [meet, hv], by simp [meet, hv]⟩
    · refine .inr ⟨hmounts hv, _, _,
        updates_snoc (MountVolume.qualifyVolume first) hv spec.volumes,
        updates_snoc (MountVolume.qualifyVolume second) hv spec.volumes, ?_⟩
      rw [List.forall₂_map_left_iff, List.forall₂_map_right_iff, List.forall₂_same]
      exact fun volume _ => referenceApart_qualifyVolume volume
  containers := by
    simp only [meet]
    rw [List.forall₂_map_left_iff, List.forall₂_map_right_iff, List.forall₂_same]
    exact fun container hm => outfit_replicas (hfirst container hm) (hsecond container hm)

end

-- ---------------------------------------------------------------------------
-- Two runs with the same effects
-- ---------------------------------------------------------------------------

namespace Pipeline

def Binds (annotations : Annotations.Collection) (applied : List Feature) (container : String)
    (portName : Option String) : Prop :=
  .hostPort ∈ applied ∧ ∃ config, HostPort.declared? annotations = .ok (some config) ∧
    HostPort.BindsName config.value.containers container portName

theorem binds_iff {annotations : Annotations.Collection} {ordinal : UInt32}
    {features : List Feature} {container : String} {portName : Option String} :
    Binds annotations (features.filter (·.isInForce annotations ordinal)) container portName ↔
      HostPort.BindsName (demandOf annotations ordinal features).ports container portName := by
  constructor
  · rintro ⟨happlied, config, hdeclared, entry, hm, hbinds⟩
    obtain ⟨hlisted, hinForce⟩ := List.mem_filter.mp happlied
    have happlies : config.appliesTo ordinal = true := by
      by_contra hnot
      simp [Feature.isInForce, hdeclared, inForce?, hnot] at hinForce
    refine ⟨entry, mem_ports_demandOf.mpr ⟨hlisted, ?_⟩, hbinds⟩
    exact HostPort.mem_inForce.mpr ⟨config, hdeclared, happlies, hm⟩
  · rintro ⟨entry, he, hbinds⟩
    obtain ⟨hlisted, hinForce⟩ := mem_ports_demandOf.mp he
    obtain ⟨config, hdeclared, happlies, hm⟩ := HostPort.mem_inForce.mp hinForce
    refine ⟨List.mem_filter.mpr ⟨hlisted, ?_⟩, config, hdeclared, entry, hm, hbinds⟩
    simp [Feature.isInForce, hdeclared, Feature.inForce?_of_applies happlies]

/-- Two pods with one spec and the same annotations, mutated by the same features, get specs that
differ only by their ordinals. -/
theorem replicas_differ_by_ordinal (pipeline : Pipeline) (one other : Pod)
    {first second : Identity} {left right : Pod} {applied : List Feature}
    (hspec : one.spec = other.spec)
    (hannotations : one.metadata.annotations = other.metadata.annotations)
    (hone : pipeline.run one = .mutated first left applied)
    (hother : pipeline.run other = .mutated second right applied) :
    match one.spec with
    | none => left.spec = none ∧ right.spec = none
    | some spec => ∃ mine yours, left.spec = some mine ∧ right.spec = some yours ∧
        SpecReplicas first.ordinal second.ordinal
          (Binds (pipeline.scheme.collect one.metadata) applied) (.mountVolume ∈ applied)
          spec mine yours := by
  have hcollect : pipeline.scheme.collect one.metadata =
      pipeline.scheme.collect other.metadata := by
    simp only [Annotations.Scheme.collect, hannotations]
  cases course hone with
  | bare hid hs =>
    cases course hother with
    | bare hid' hs' => simp only [hs, hs', and_self]
    | mutated hid' hs' hrun' =>
      rw [← hspec, hs] at hs'
      cases hs'
  | @mutated _ spec mine _ hid hs hrun =>
    cases course hother with
    | bare hid' hs' =>
      rw [← hspec, hs] at hs'
      cases hs'
    | @mutated _ _ yours _ hid' hs' hrun' =>
      obtain rfl := Option.some.inj ((hs.symm.trans hspec).trans hs')
      rw [← hcollect] at hrun'
      obtain ⟨hmine, happlied⟩ := applyFeatures_ok hrun
      obtain ⟨hyours, happlied'⟩ := applyFeatures_ok hrun'
      -- Features in force for both ordinals ask for the same, so both runs meet one demand.
      have hdemand := demandOf_congr (happlied.symm.trans happlied')
      rw [foldl_reshape] at hmine hyours
      rw [← hdemand] at hyours
      have hbinds : Binds (pipeline.scheme.collect one.metadata) applied =
          HostPort.BindsName (demandOf (pipeline.scheme.collect one.metadata) first.ordinal
            pipeline.features).ports :=
        happlied ▸ funext fun container => funext fun portName => propext binds_iff
      rw [hs]
      refine ⟨mine, yours, rfl, rfl, ?_⟩
      rw [hmine, hyours, hbinds]
      refine Demand.meet_replicas (fun container hm entry he => fits_of_ok hrun hm he)
        (fun container hm entry he => fits_of_ok hrun' hm (hdemand ▸ he)) fun hvolumes => ?_
      by_contra hnot
      rw [happlied] at hnot
      exact hvolumes (demandOf_ports_only hnot).1

def webReplica (ordinal : String) : Pod :=
  { metadata :=
      { annotations := some (.ofList [
          ("spoditor.io/host-port",
            r#"{"containers": [{"name": "a", "ports": [{"hostPort": 8080}]}]}"#),
          ("spoditor.io/mount-volume",
            r#"{"volumes": [{"configMap": {"name": "c"}}], "containers": [{"name": "a"}]}"#)])
        labels := some (.ofList [(podNameLabel, "web-" ++ ordinal)]) }
    spec := some { containers := [{ name := "a", ports := some [{}, {}] }] } }

theorem replicas_differ_by_ordinal_web :
    standard.run (webReplica "1") = .mutated ⟨"web", 1⟩ (standard.admitted (webReplica "1"))
      [.mountVolume, .hostPort] ∧
    standard.run (webReplica "4") = .mutated ⟨"web", 4⟩ (standard.admitted (webReplica "4"))
      [.mountVolume, .hostPort] ∧
    ∃ mine yours, (standard.admitted (webReplica "1")).spec = some mine ∧
      (standard.admitted (webReplica "4")).spec = some yours ∧
      SpecReplicas 1 4 (Binds (standard.scheme.collect (webReplica "1").metadata)
          [.mountVolume, .hostPort]) (.mountVolume ∈ [Feature.mountVolume, .hostPort])
        { containers := [{ name := "a", ports := some [{}, {}] }] } mine yours := by
  have hone : standard.run (webReplica "1") =
      .mutated ⟨"web", 1⟩ (standard.admitted (webReplica "1")) [.mountVolume, .hostPort] := by
    decide +kernel
  have hother : standard.run (webReplica "4") =
      .mutated ⟨"web", 4⟩ (standard.admitted (webReplica "4")) [.mountVolume, .hostPort] := by
    decide +kernel
  exact ⟨hone, hother, replicas_differ_by_ordinal standard (webReplica "1") (webReplica "4") rfl rfl
    hone hother⟩

end Pipeline

end OrdinalAdmission
