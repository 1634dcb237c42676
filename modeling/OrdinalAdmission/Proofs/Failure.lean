import OrdinalAdmission.Proofs.Reshape
import OrdinalAdmission.Proofs.Sequencing

/-!
# When an admission fails

Whether a feature fails, and how, is settled by the annotations, the ordinal and the names of the
containers. No feature changes any of these, so what the features before it did to the spec has no
say in it: the pod as it came decides. The outcome of a run is put together from these conditions.
-/

namespace OrdinalAdmission

open Kube

-- ---------------------------------------------------------------------------
-- Ports out of range
-- ---------------------------------------------------------------------------

namespace HostPort

section
variable {ordinal : UInt32}

def Overflows (ordinal : UInt32) (port : ContainerPort) : Prop :=
  ∃ base, port.hostPort = some base ∧ 0 < base.toInt ∧ 65535 < base.toInt + ordinal.toNat

theorem overflows_iff {port : ContainerPort} :
    Overflows ordinal port ↔ 0 < (port.hostPort.getD 0).toInt ∧
      65535 < (port.hostPort.getD 0).toInt + ordinal.toNat := by
  constructor
  · rintro ⟨base, hb, h⟩
    rw [hb]
    exact h
  · intro h
    cases hp : port.hostPort with
    | none => simp [hp] at h
    | some base =>
      rw [hp] at h
      exact ⟨base, hp, h⟩

theorem effectivePort_eq_none_iff {base : Int32} (h : 0 < base.toInt) :
    effectivePort base ordinal = none ↔ 65535 < base.toInt + ordinal.toNat := by
  have hmax : Int32.maxValue.toInt = 2147483647 := rfl
  simp only [effectivePort, hmax, maxPort]
  split
  · simp only [reduceCtorEq, false_iff]
    omega
  · simp only [true_iff]
    omega

theorem bindings_cons_of_overflows {port : ContainerPort} (h : Overflows ordinal port)
    (rest : List ContainerPort) : bindings ordinal (port :: rest) = ([], some port) := by
  obtain ⟨hpos, hover⟩ := overflows_iff.mp h
  have hbase : ¬ port.hostPort.getD 0 ≤ 0 := by
    rw [Int32.le_iff_toInt_le, Int32.toInt_zero]
    omega
  simp [bindings, hbase, (effectivePort_eq_none_iff hpos).mpr hover]

theorem bindings_cons_of_not_overflows {port : ContainerPort} (h : ¬ Overflows ordinal port)
    (rest : List ContainerPort) :
    (bindings ordinal (port :: rest)).2 = (bindings ordinal rest).2 := by
  rw [bindings]
  by_cases hbase : port.hostPort.getD 0 ≤ 0
  · rw [if_pos hbase]
  · have hpos : 0 < (port.hostPort.getD 0).toInt := by
      rw [Int32.le_iff_toInt_le, Int32.toInt_zero] at hbase
      omega
    rw [if_neg hbase]
    cases he : effectivePort (port.hostPort.getD 0) ordinal with
    | some hostPort => rfl
    | none => exact absurd (overflows_iff.mpr ⟨hpos, (effectivePort_eq_none_iff hpos).mp he⟩) h

theorem bindings_stop_iff {ports : List ContainerPort} {port : ContainerPort} :
    (bindings ordinal ports).2 = some port ↔ First (Overflows ordinal) ports port := by
  induction ports with
  | nil => simp [bindings, not_first_nil]
  | cons head rest ih =>
    by_cases h : Overflows ordinal head
    · rw [bindings_cons_of_overflows h, first_cons_of_holds h, Option.some_inj, eq_comm]
    · rw [bindings_cons_of_not_overflows h, first_cons_of_not h, ih]

-- ---------------------------------------------------------------------------
-- Entries that fail
-- ---------------------------------------------------------------------------

/-- The entry names a container, and one of its ports is out of range. -/
def Entry.Fails (ordinal : UInt32) (names : List String) (entry : Entry) : Prop :=
  entry.name ∈ names ∧ ∃ port ∈ entry.ports, Overflows ordinal port

def Entry.Reports (ordinal : UInt32) (entry : Entry) (error : MutationError) : Prop :=
  ∃ port base, First (Overflows ordinal) entry.ports port ∧ port.hostPort = some base ∧
    error = .portOutOfRange entry.name (port.name.getD "") base ordinal

theorem Entry.apply_error_iff {entry : Entry} {containers : List Container}
    {error : MutationError} :
    (entry.apply ordinal containers).2 = some error ↔
      entry.Fails ordinal (containers.map (·.name)) ∧ entry.Reports ordinal error := by
  have named : containers.any (fun container => container.name == entry.name) = true ↔
      entry.name ∈ containers.map (·.name) := by
    simp [List.any_eq_true, List.mem_map]
  unfold Entry.apply
  split
  · next found hb =>
    -- Nothing stops the binding, so no port is out of range.
    have hnone : ¬ ∃ port ∈ entry.ports, Overflows ordinal port := by
      rw [← exists_first]
      rintro ⟨port, hp⟩
      rw [← bindings_stop_iff, hb] at hp
      cases hp
    simp only [reduceCtorEq, false_iff]
    exact fun h => hnone h.1.2
  · next found port hb =>
    have hfirst : First (Overflows ordinal) entry.ports port := by
      rw [← bindings_stop_iff, hb]
    obtain ⟨base, hbase, -⟩ := hfirst.mem.2
    simp only [named]
    constructor
    · intro h
      split at h
      · next hname =>
        refine ⟨⟨hname, port, hfirst.mem⟩, port, base, hfirst, hbase, ?_⟩
        simpa [hbase] using h.symm
      · cases h
    · rintro ⟨⟨hname, -⟩, other, base, hother, hbase, rfl⟩
      have : port = other := by
        rw [← bindings_stop_iff, hb] at hother
        exact Option.some.inj hother
      subst this
      rw [if_pos hname, hbase]
      rfl

theorem Entry.reports_of_fails {entry : Entry} {names : List String}
    (h : entry.Fails ordinal names) : ∃ error, entry.Reports ordinal error := by
  obtain ⟨port, hport⟩ := exists_first.mpr h.2
  obtain ⟨base, hbase, -⟩ := hport.mem.2
  exact ⟨_, port, base, hport, hbase, rfl⟩

theorem Entry.apply_ok_iff {entry : Entry} {containers : List Container} :
    (entry.apply ordinal containers).2 = none ↔
      ¬ entry.Fails ordinal (containers.map (·.name)) := by
  constructor
  · intro h hf
    obtain ⟨error, he⟩ := reports_of_fails hf
    rw [apply_error_iff.mpr ⟨hf, he⟩] at h
    cases h
  · intro h
    cases he : (entry.apply ordinal containers).2 with
    | none => rfl
    | some error => exact absurd (apply_error_iff.mp he).1 h

/-- The work stops at the first entry that fails, judged by the names the containers came with. -/
theorem applyEntries_error_iff {entries : List Entry} {containers : List Container}
    {error : MutationError} :
    (applyEntries ordinal entries containers).2 = some error ↔
      ∃ entry, First (Entry.Fails ordinal (containers.map (·.name))) entries entry ∧
        entry.Reports ordinal error := by
  induction entries generalizing containers with
  | nil => simp [applyEntries, not_first_nil]
  | cons entry rest ih =>
    have hnames := entry.names_apply ordinal containers
    by_cases hf : entry.Fails ordinal (containers.map (·.name))
    · simp only [first_cons_of_holds hf, exists_eq_left]
      rw [applyEntries]
      split
      · next left he =>
        have hok : (entry.apply ordinal containers).2 = none := by rw [he]
        exact absurd hf (Entry.apply_ok_iff.mp hok)
      · next left reported he =>
        have hr : (entry.apply ordinal containers).2 = some reported := by rw [he]
        rw [← hr, Entry.apply_error_iff]
        simp [hf]
    · simp only [first_cons_of_not hf]
      rw [applyEntries]
      split
      · next left he =>
        rw [he] at hnames
        rw [ih, hnames]
      · next left reported he =>
        have hr : (entry.apply ordinal containers).2 = some reported := by rw [he]
        exact absurd (Entry.apply_error_iff.mp hr).1 hf

end

end HostPort

-- ---------------------------------------------------------------------------
-- Features that fail
-- ---------------------------------------------------------------------------

namespace Feature

/-- The condition on which a feature fails, given the names of the containers. Two annotations or
one that does not decode fail either feature; a port out of range fails the host port feature where
its entry names a container. -/
def Fails (annotations : Annotations.Collection) (ordinal : UInt32) (names : List String) :
    Feature → Prop
  | mountVolume =>
    ∃ error, mountVolume.declared? MountVolume.Config.codec annotations = .error error
  | hostPort =>
    (∃ error, hostPort.declared? HostPort.Config.codec annotations = .error error) ∨
      ∃ config, hostPort.declared? HostPort.Config.codec annotations = .ok (some config) ∧
        qualifies config.qualifier ordinal = true ∧
        ∃ entry ∈ config.value.containers, entry.Fails ordinal names

inductive Reports (annotations : Annotations.Collection) (ordinal : UInt32)
    (names : List String) : Feature → MutationError → Prop where
  | volumes {error : MutationError} :
      mountVolume.declared? MountVolume.Config.codec annotations = .error error →
      Reports annotations ordinal names mountVolume error
  | ports {error : MutationError} :
      hostPort.declared? HostPort.Config.codec annotations = .error error →
      Reports annotations ordinal names hostPort error
  | range {config : Qualified HostPort.Config} {entry : HostPort.Entry} {error : MutationError} :
      hostPort.declared? HostPort.Config.codec annotations = .ok (some config) →
      qualifies config.qualifier ordinal = true →
      First (HostPort.Entry.Fails ordinal names) config.value.containers entry →
      entry.Reports ordinal error → Reports annotations ordinal names hostPort error

section
variable {annotations : Annotations.Collection} {ordinal : UInt32} {names : List String}
  {spec : PodSpec} {feature : Feature} {error : MutationError}

theorem fails_iff_exists_reports :
    feature.Fails annotations ordinal names ↔
      ∃ error, feature.Reports annotations ordinal names error := by
  constructor
  · intro h
    cases feature with
    | mountVolume =>
      obtain ⟨error, he⟩ := h
      exact ⟨error, .volumes he⟩
    | hostPort =>
      rcases h with ⟨error, he⟩ | ⟨config, hd, hq, hentry⟩
      · exact ⟨error, .ports he⟩
      · obtain ⟨entry, hfirst⟩ := exists_first.mpr hentry
        obtain ⟨error, he⟩ := HostPort.Entry.reports_of_fails hfirst.mem.2
        exact ⟨error, .range hd hq hfirst he⟩
  · rintro ⟨error, h⟩
    cases h with
    | volumes he => exact ⟨error, he⟩
    | ports he => exact .inl ⟨error, he⟩
    | range hd hq hfirst _ => exact .inr ⟨_, hd, hq, _, hfirst.mem⟩

theorem applyDeclared_error_iff {α : Type}
    {declared : Except MutationError (Option (Qualified α))}
    {work : Qualified α → PodSpec → PodSpec × Option MutationError} :
    (applyDeclared declared work ordinal spec).2 = .error error ↔
      declared = .error error ∨ ∃ config, declared = .ok (some config) ∧
        config.appliesTo ordinal = true ∧ (work config spec).2 = some error := by
  unfold applyDeclared
  split
  · simp
  · simp
  · next config =>
    by_cases happlies : config.appliesTo ordinal = true
    · rw [if_pos happlies]
      split
      · next left hw => simp [happlies, hw]
      · next left reported hw => simp [happlies, hw]
    · simp [happlies]

theorem applyDeclared_left {α : Type} {declared : Except MutationError (Option (Qualified α))}
    {work : Qualified α → PodSpec → PodSpec × Option MutationError} {P : PodSpec → Prop}
    (hspec : P spec) (hwork : ∀ config, P (work config spec).1) :
    P (applyDeclared declared work ordinal spec).1 := by
  unfold applyDeclared
  split
  · exact hspec
  · exact hspec
  · next config =>
    have := hwork config
    split
    · split
      · next left hw => rwa [hw] at this
      · next left reported hw => rwa [hw] at this
    · exact hspec

theorem names_apply (feature : Feature) (annotations : Annotations.Collection)
    (ordinal : UInt32) (spec : PodSpec) :
    (feature.apply annotations ordinal spec).1.containers.map (·.name) =
      spec.containers.map (·.name) := by
  cases feature with
  | hostPort =>
    refine applyDeclared_left (P := fun left => left.containers.map (·.name) = _) rfl ?_
    intro config
    unfold HostPort.mutate
    split
    · exact HostPort.names_applyEntries ordinal config.value.containers spec.containers
    · rfl
  | mountVolume =>
    refine applyDeclared_left (P := fun left => left.containers.map (·.name) = _) rfl ?_
    intro config
    unfold MountVolume.mutate
    split
    · simp [MountVolume.Config.apply_eq, Function.comp_def]
    · rfl

theorem apply_error_iff :
    (feature.apply annotations ordinal spec).2 = .error error ↔
      feature.Reports annotations ordinal (spec.containers.map (·.name)) error := by
  cases feature with
  | mountVolume =>
    refine applyDeclared_error_iff.trans ?_
    constructor
    · rintro (h | ⟨_, _, _, h⟩)
      · exact .volumes (declared?_eq_error_iff.mp h)
      · cases h
    · intro h
      cases h with
      | volumes he => exact .inl (declared?_eq_error_iff.mpr he)
  | hostPort =>
    refine applyDeclared_error_iff.trans ?_
    constructor
    · rintro (h | ⟨config, hd, happlies, h⟩)
      · exact .ports h
      · rw [HostPort.mutate_of_applies happlies, HostPort.applyEntries_error_iff] at h
        obtain ⟨entry, hfirst, hreports⟩ := h
        exact .range hd happlies hfirst hreports
    · intro h
      cases h with
      | ports he => exact .inl he
      | range hd happlies hfirst hreports =>
        refine .inr ⟨_, hd, happlies, ?_⟩
        rw [HostPort.mutate_of_applies happlies]
        exact HostPort.applyEntries_error_iff.mpr ⟨_, hfirst, hreports⟩

theorem apply_succeeds_iff :
    (∃ effect, (feature.apply annotations ordinal spec).2 = .ok effect) ↔
      ¬ feature.Fails annotations ordinal (spec.containers.map (·.name)) := by
  rw [fails_iff_exists_reports]
  simp only [← apply_error_iff]
  cases (feature.apply annotations ordinal spec).2 <;> simp

end

end Feature

-- ---------------------------------------------------------------------------
-- Runs that fail
-- ---------------------------------------------------------------------------

namespace Pipeline

section
variable {annotations : Annotations.Collection} {ordinal : UInt32} {spec : PodSpec}

/-- The first feature that fails on the spec as it came fails the run, with its own error. -/
theorem applyFeatures_error_iff {features : List Feature} {feature : Feature}
    {error : MutationError} :
    applyFeatures annotations ordinal features spec = .error (feature, error) ↔
      First (Feature.Fails annotations ordinal (spec.containers.map (·.name))) features feature ∧
        feature.Reports annotations ordinal (spec.containers.map (·.name)) error := by
  induction features generalizing spec with
  | nil => simp [applyFeatures, not_first_nil]
  | cons head rest ih =>
    have hnames := head.names_apply annotations ordinal spec
    by_cases hf : head.Fails annotations ordinal (spec.containers.map (·.name))
    · obtain ⟨reported, hr⟩ := Feature.fails_iff_exists_reports.mp hf
      have happly := Feature.apply_error_iff.mpr hr
      have hrun : applyFeatures annotations ordinal (head :: rest) spec =
          .error (head, reported) := by
        rw [applyFeatures]
        split
        · next left other he =>
          rw [he] at happly
          rw [Except.error.inj happly]
        · next left effect he =>
          rw [he] at happly
          cases happly
      rw [hrun, first_cons_of_holds hf]
      constructor
      · intro h
        cases h
        exact ⟨rfl, hr⟩
      · rintro ⟨rfl, hother⟩
        rw [Feature.apply_error_iff.mpr hother] at happly
        rw [Except.error.inj happly]
    · obtain ⟨effect, he⟩ := Feature.apply_succeeds_iff.mpr hf
      rw [first_cons_of_not hf, ← hnames, ← ih, applyFeatures]
      split
      · next left other hother =>
        rw [hother] at he
        cases he
      · next left other hother =>
        rw [hother]
        cases applyFeatures annotations ordinal rest left with
        | error failed => rfl
        | ok result => simp [bind, Except.bind, pure, Except.pure]

theorem applyFeatures_fails_iff {features : List Feature} :
    (∃ failed, applyFeatures annotations ordinal features spec = .error failed) ↔
      ∃ feature ∈ features,
        feature.Fails annotations ordinal (spec.containers.map (·.name)) := by
  rw [← exists_first, Prod.exists]
  simp only [applyFeatures_error_iff, exists_and_left]
  refine exists_congr fun feature => ?_
  constructor
  · exact fun h => h.1
  · exact fun h => ⟨h, Feature.fails_iff_exists_reports.mp h.mem.2⟩

theorem applyFeatures_succeeds_iff {features : List Feature} :
    (∃ result, applyFeatures annotations ordinal features spec = .ok result) ↔
      ∀ feature ∈ features,
        ¬ feature.Fails annotations ordinal (spec.containers.map (·.name)) := by
  have hnot : (∃ result, applyFeatures annotations ordinal features spec = .ok result) ↔
      ¬ ∃ failed, applyFeatures annotations ordinal features spec = .error failed := by
    cases applyFeatures annotations ordinal features spec <;> simp
  rw [hnot, applyFeatures_fails_iff]
  simp

end

-- ---------------------------------------------------------------------------
-- The outcome of a run
-- ---------------------------------------------------------------------------

theorem run_eq_notStatefulSet_iff {pipeline : Pipeline} {pod : Pod} {reason : IdentityError} :
    pipeline.run pod = .notStatefulSet reason ↔
      pipeline.identifier.identify pod.metadata = .error reason := by
  unfold run
  split
  · next other he => simp [he]
  · next identity he =>
    rw [he]
    split
    · simp
    · split <;> simp

theorem run_of_no_spec {pipeline : Pipeline} {pod : Pod} {identity : Identity}
    (hid : pipeline.identifier.identify pod.metadata = .ok identity) (hspec : pod.spec = none) :
    pipeline.run pod = .mutated identity pod [] := by
  simp [run, hid, hspec]

section
variable {pipeline : Pipeline} {pod : Pod} {identity : Identity} {spec : PodSpec}

theorem run_of_ok {left : PodSpec} {applied : List Feature}
    (hid : pipeline.identifier.identify pod.metadata = .ok identity) (hspec : pod.spec = some spec)
    (h : applyFeatures (pipeline.scheme.collect pod.metadata) identity.ordinal
      pipeline.features spec = .ok (left, applied)) :
    pipeline.run pod = .mutated identity { pod with spec := some left } applied := by
  simp [run, hid, hspec, h]

theorem run_of_error {feature : Feature} {error : MutationError}
    (hid : pipeline.identifier.identify pod.metadata = .ok identity) (hspec : pod.spec = some spec)
    (h : applyFeatures (pipeline.scheme.collect pod.metadata) identity.ordinal
      pipeline.features spec = .error (feature, error)) :
    pipeline.run pod = .failed identity feature error := by
  simp [run, hid, hspec, h]

theorem run_eq_failed_iff {who : Identity} {feature : Feature} {error : MutationError}
    (hid : pipeline.identifier.identify pod.metadata = .ok identity)
    (hspec : pod.spec = some spec) :
    pipeline.run pod = .failed who feature error ↔ who = identity ∧
      applyFeatures (pipeline.scheme.collect pod.metadata) identity.ordinal
        pipeline.features spec = .error (feature, error) := by
  cases h : applyFeatures (pipeline.scheme.collect pod.metadata) identity.ordinal
      pipeline.features spec with
  | ok result => simp [run_of_ok hid hspec h]
  | error failed =>
    rw [run_of_error hid hspec h]
    simp [Prod.ext_iff, eq_comm]

theorem run_mutates_iff (hid : pipeline.identifier.identify pod.metadata = .ok identity)
    (hspec : pod.spec = some spec) :
    (∃ left applied,
        pipeline.run pod = .mutated identity { pod with spec := some left } applied) ↔
      ∃ result, applyFeatures (pipeline.scheme.collect pod.metadata) identity.ordinal
        pipeline.features spec = .ok result := by
  cases h : applyFeatures (pipeline.scheme.collect pod.metadata) identity.ordinal
      pipeline.features spec with
  | ok result =>
    have := run_of_ok hid hspec h
    exact iff_of_true ⟨_, _, this⟩ ⟨result, rfl⟩
  | error failed => simp [run_of_error hid hspec h]

end

/-- The ways in which a run comes to its outcome. -/
inductive Course (pipeline : Pipeline) (pod : Pod) : Outcome → Prop where
  | notStatefulSet {reason : IdentityError} :
      pipeline.identifier.identify pod.metadata = .error reason →
      Course pipeline pod (.notStatefulSet reason)
  | bare {identity : Identity} :
      pipeline.identifier.identify pod.metadata = .ok identity → pod.spec = none →
      Course pipeline pod (.mutated identity pod [])
  | failed {identity : Identity} {spec : PodSpec} {feature : Feature} {error : MutationError} :
      pipeline.identifier.identify pod.metadata = .ok identity → pod.spec = some spec →
      applyFeatures (pipeline.scheme.collect pod.metadata) identity.ordinal pipeline.features
        spec = .error (feature, error) →
      Course pipeline pod (.failed identity feature error)
  | mutated {identity : Identity} {spec left : PodSpec} {applied : List Feature} :
      pipeline.identifier.identify pod.metadata = .ok identity → pod.spec = some spec →
      applyFeatures (pipeline.scheme.collect pod.metadata) identity.ordinal pipeline.features
        spec = .ok (left, applied) →
      Course pipeline pod (.mutated identity { pod with spec := some left } applied)

theorem course {pipeline : Pipeline} {pod : Pod} {outcome : Outcome}
    (h : pipeline.run pod = outcome) : Course pipeline pod outcome := by
  subst h
  cases hid : pipeline.identifier.identify pod.metadata with
  | error reason =>
    rw [run_eq_notStatefulSet_iff.mpr hid]
    exact .notStatefulSet hid
  | ok identity =>
    cases hspec : pod.spec with
    | none =>
      rw [run_of_no_spec hid hspec]
      exact .bare hid hspec
    | some spec =>
      cases h : applyFeatures (pipeline.scheme.collect pod.metadata) identity.ordinal
          pipeline.features spec with
      | error failed =>
        rw [run_of_error hid hspec h]
        exact .failed hid hspec h
      | ok result =>
        rw [run_of_ok hid hspec h]
        exact .mutated hid hspec h

/-- An admission does all its features' work or none. A pod of no StatefulSet and a pod without a
spec are taken as they come. Any other pod fails exactly when a feature fails on the spec as it
came, whatever the features before it did; the first such feature is the one reported, with the
error it would report on its own, and the pod is admitted unchanged. -/
theorem admission_all_or_nothing (pipeline : Pipeline) (pod : Pod) :
    (∀ reason, pipeline.run pod = .notStatefulSet reason ↔
      pipeline.identifier.identify pod.metadata = .error reason) ∧
    match pipeline.identifier.identify pod.metadata, pod.spec with
    | .error _, _ => pipeline.admitted pod = pod
    | .ok identity, none => pipeline.run pod = .mutated identity pod []
    | .ok identity, some spec =>
      let annotations := pipeline.scheme.collect pod.metadata
      let names := spec.containers.map (·.name)
      ((∃ who feature error, pipeline.run pod = .failed who feature error) ↔
        ∃ feature ∈ pipeline.features, feature.Fails annotations identity.ordinal names) ∧
      (∀ who feature error, pipeline.run pod = .failed who feature error ↔
        who = identity ∧
        First (Feature.Fails annotations identity.ordinal names) pipeline.features feature ∧
        feature.Reports annotations identity.ordinal names error) ∧
      ((∃ left applied,
          pipeline.run pod = .mutated identity { pod with spec := some left } applied) ↔
        ∀ feature ∈ pipeline.features, ¬ feature.Fails annotations identity.ordinal names) ∧
      ((pipeline.run pod).isFailed = true → pipeline.admitted pod = pod) := by
  refine ⟨fun reason => run_eq_notStatefulSet_iff, ?_⟩
  split
  · next reason spec hid =>
    rw [admitted, run_eq_notStatefulSet_iff.mpr hid]
    rfl
  · next identity hid hspec => exact run_of_no_spec hid hspec
  · next identity spec hid hspec =>
    refine ⟨?_, ?_, ?_, ?_⟩
    · rw [← applyFeatures_fails_iff, Prod.exists]
      simp only [run_eq_failed_iff hid hspec, exists_eq_left, exists_and_left]
    · intro who feature error
      rw [run_eq_failed_iff hid hspec, applyFeatures_error_iff]
    · rw [run_mutates_iff hid hspec, applyFeatures_succeeds_iff]
    · intro h
      unfold admitted
      cases hout : pipeline.run pod with
      | notStatefulSet reason => rfl
      | failed who feature error => rfl
      | mutated who other applied => rw [hout] at h; cases h

end Pipeline

end OrdinalAdmission
