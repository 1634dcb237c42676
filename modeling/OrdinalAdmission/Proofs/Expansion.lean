import OrdinalAdmission.Identity
import OrdinalAdmission.Manifest.Expansion

/-!
# The pods of a set and their identities

A pod's name can be cut again where the set's name ends, because no numeral has a hyphen
(`ofPodName_podName`). So the pods that a set is expanded to are identified as what they are: pods
of that set with the ordinals from zero on. The number that the set starts from has no say in it,
and the pods are those that the controller would create only where it starts from zero.
-/

namespace OrdinalAdmission

open Kube

-- ---------------------------------------------------------------------------
-- Names of pods
-- ---------------------------------------------------------------------------

/-- No numeral has a hyphen, so the last hyphen of a pod's name is the one before its ordinal. -/
theorem Manifest.cutLast?_podName (set : String) (ordinal : Nat) :
    Text.cutLast? '-' (podName set ordinal).toList = some (set.toList, Decimal.digits ordinal) := by
  rw [Text.cutLast?_eq_some_iff]
  exact ⟨by simp [podName, Decimal.text],
    Decimal.hyphen_not_mem (Decimal.isNumeral_digits ordinal)⟩

theorem Manifest.podName_inj {one other : String} {first second : Nat} :
    podName one first = podName other second ↔ one = other ∧ first = second := by
  constructor
  · intro h
    have hcut := (cutLast?_podName one first).symm.trans (h ▸ cutLast?_podName other second)
    obtain ⟨hset, hdigits⟩ := Prod.mk.inj (Option.some.inj hcut)
    exact ⟨String.toList_inj.mp hset, by simpa using congrArg Decimal.value hdigits⟩
  · rintro ⟨rfl, rfl⟩
    rfl

theorem Identity.ofPodName_podName {set : String} (hne : set ≠ "") (hline : '\n' ∉ set.toList)
    {ordinal : Nat} (hfits : ordinal < UInt32.size) :
    Identity.ofPodName (Manifest.podName set ordinal) = .ok ⟨set, UInt32.ofNat ordinal⟩ := by
  have hordinal : Decimal.toUInt32? (Decimal.digits ordinal) = some (UInt32.ofNat ordinal) := by
    rw [Decimal.toUInt32?_eq_some_iff, Decimal.value_digits, UInt32.toNat_ofNat_of_lt' hfits]
  simp [Identity.ofPodName, Manifest.cutLast?_podName, hne, hline, Decimal.isNumeral_digits,
    hordinal]

namespace Manifest

-- ---------------------------------------------------------------------------
-- How many pods there are
-- ---------------------------------------------------------------------------

/-- The number of pods that is asked for: by an override, else by the set, else it is one. -/
def replicasAsked (spec : StatefulSetSpec) : Option UInt32 → Int
  | some replicas => replicas.toNat
  | none => spec.replicas.elim 1 Int32.toInt

section
variable {set : StatefulSet} {spec : StatefulSetSpec} {name label : String}
  {replicas : Option UInt32}

theorem replicasAsked_lt (spec : StatefulSetSpec) (replicas : Option UInt32) :
    replicasAsked spec replicas < UInt32.size := by
  cases replicas with
  | some replicas => exact Int.ofNat_lt.mpr replicas.toNat_lt_size
  | none =>
    cases h : spec.replicas with
    | none => simp [replicasAsked, h]
    | some declared =>
      have hmax := declared.toInt_lt
      have hsize : (UInt32.size : Int) = 4294967296 := rfl
      simp only [replicasAsked, h, Option.elim_some]
      omega

theorem replicasAsked_neg_iff :
    replicasAsked spec replicas < 0 ↔
      replicas = none ∧ ∃ declared, spec.replicas = some declared ∧ declared.toInt < 0 := by
  cases replicas with
  | some replicas =>
    simp only [replicasAsked, reduceCtorEq, false_and, iff_false]
    omega
  | none => cases h : spec.replicas <;> simp [replicasAsked, h]

theorem replicaCount_eq_ok_iff {count : Nat} :
    replicaCount name spec replicas = .ok count ↔ replicasAsked spec replicas = count := by
  cases replicas with
  | some replicas =>
    simp only [replicaCount, replicasAsked, Except.ok.injEq]
    omega
  | none =>
    have hdeclared : replicasAsked spec none = (spec.replicas.getD 1).toInt := by
      cases h : spec.replicas with
      | none => simp [replicasAsked, h]
      | some declared => simp [replicasAsked, h]
    rw [hdeclared, replicaCount]
    simp only [Int32.lt_iff_toInt_lt, Int32.toInt_zero]
    split
    · next hneg =>
      simp only [reduceCtorEq, false_iff]
      omega
    · next hneg =>
      simp only [Except.ok.injEq]
      omega

-- ---------------------------------------------------------------------------
-- The pods
-- ---------------------------------------------------------------------------

theorem pods_eq_ok_iff {made : List Pod} :
    pods set replicas label = .ok made ↔ ∃ name spec, ∃ count : Nat,
      set.metadata.name = some name ∧ name ≠ "" ∧ set.spec = some spec ∧
      replicasAsked spec replicas = count ∧
      made = (List.range count).map (pod set spec name label) := by
  constructor
  · intro h
    unfold pods at h
    split at h
    · cases h
    · next name hname =>
      obtain ⟨hname, hne⟩ := Option.filter_eq_some_iff.mp hname
      split at h
      · cases h
      · next spec hspec =>
        cases hcount : replicaCount name spec replicas with
        | error error =>
          rw [hcount] at h
          cases h
        | ok count =>
          rw [hcount] at h
          cases h
          exact ⟨name, spec, count, hname, by simpa using hne, hspec,
            replicaCount_eq_ok_iff.mp hcount, rfl⟩
  · rintro ⟨name, spec, count, hname, hne, hspec, hcount, rfl⟩
    have hfilter : set.metadata.name.filter (!·.isEmpty) = some name :=
      Option.filter_eq_some_iff.mpr ⟨hname, by simpa using hne⟩
    have hcount : replicaCount name spec replicas = .ok count := replicaCount_eq_ok_iff.mpr hcount
    simp only [pods, hfilter, hspec, hcount]
    rfl

theorem pods_error_iff :
    (∃ error, pods set replicas label = .error error) ↔
      set.metadata.name.getD "" = "" ∨ set.spec = none ∨
        replicas = none ∧ ∃ spec declared, set.spec = some spec ∧
          spec.replicas = some declared ∧ declared.toInt < 0 := by
  have hnot : (∃ error, pods set replicas label = .error error) ↔
      ¬ ∃ made, pods set replicas label = .ok made := by
    cases pods set replicas label <;> simp
  rw [hnot]
  constructor
  · intro h
    cases hname : set.metadata.name with
    | none => exact .inl rfl
    | some name =>
      cases hspec : set.spec with
      | none => exact .inr (.inl rfl)
      | some spec =>
        by_cases hne : name = ""
        · exact .inl hne
        by_cases hneg : replicasAsked spec replicas < 0
        · obtain ⟨hnone, declared, hdeclared, hneg⟩ := replicasAsked_neg_iff.mp hneg
          exact .inr (.inr ⟨hnone, spec, declared, rfl, hdeclared, hneg⟩)
        · have hcount := (Int.toNat_of_nonneg (Int.not_lt.mp hneg)).symm
          exact absurd ⟨_, pods_eq_ok_iff.mpr ⟨name, spec, _, hname, hne, hspec, hcount, rfl⟩⟩ h
  · rintro hbad ⟨made, hmade⟩
    obtain ⟨name, spec, count, hname, hne, hspec, hcount, -⟩ := pods_eq_ok_iff.mp hmade
    rcases hbad with hempty | hnone | ⟨hnone, spec', declared, hspec', hdeclared, hneg⟩
    · simp [hname, hne] at hempty
    · simp [hspec] at hnone
    · obtain rfl := Option.some.inj (hspec.symm.trans hspec')
      have := replicasAsked_neg_iff.mpr ⟨hnone, declared, hdeclared, hneg⟩
      omega

-- ---------------------------------------------------------------------------
-- One pod of the set
-- ---------------------------------------------------------------------------

/-- What a pod of the set has: the name with its ordinal, the same under the label, an identity
that says what the name says, and else what the template and the set have. -/
structure IsReplica (set : StatefulSet) (spec : StatefulSetSpec) (name label : String)
    (ordinal : Nat) (pod : Pod) : Prop where
  named : pod.metadata.name = some (podName name ordinal)
  labelled : pod.metadata.labels.bind (·.get? label) = some (podName name ordinal)
  identified : '\n' ∉ name.toList → ∃ identity,
    (Identifier.label label).identify pod.metadata = .ok identity ∧
      identity.statefulSet = name ∧ identity.ordinal.toNat = ordinal ∧
      pod.metadata.name = some identity.podName
  templateSpec : pod.spec = spec.template.spec
  templateAnnotations : pod.metadata.annotations = spec.template.metadata.bind (·.annotations)
  templateLabels : ∀ key ≠ label, pod.metadata.labels.bind (·.get? key) =
    (spec.template.metadata.bind (·.labels)).bind (·.get? key)
  setNamespace : pod.metadata.namespaceName = set.metadata.namespaceName

theorem labels_pod (ordinal : Nat) (key : String) :
    (pod set spec name label ordinal).metadata.labels.bind (·.get? key) =
      if key = label then some (podName name ordinal)
      else (spec.template.metadata.bind (·.labels)).bind (·.get? key) := by
  simp only [pod, Option.bind_some, SortedMap.get?_insert]
  cases spec.template.metadata with
  | none => rfl
  | some metadata =>
    cases hlabels : metadata.labels with
    | none => simp [hlabels]; rfl
    | some labels => simp [hlabels]

theorem isReplica_pod (hne : name ≠ "") {ordinal : Nat} (hfits : ordinal < UInt32.size) :
    IsReplica set spec name label ordinal (pod set spec name label ordinal) where
  named := rfl
  labelled := by simp [labels_pod]
  identified hline := by
    have hidentity := Identity.ofPodName_podName hne hline hfits
    have hordinal : (UInt32.ofNat ordinal).toNat = ordinal := UInt32.toNat_ofNat_of_lt' hfits
    refine ⟨⟨name, UInt32.ofNat ordinal⟩, ?_, rfl, hordinal, ?_⟩
    · simp [Identifier.label, labels_pod, hidentity]
    · simp [pod, Identity.podName, podName, hordinal]
  templateSpec := rfl
  templateAnnotations := by
    cases h : spec.template.metadata <;> simp [pod, h]
  templateLabels key hkey := by simp [labels_pod, hkey]
  setNamespace := rfl

-- ---------------------------------------------------------------------------
-- All pods of the set
-- ---------------------------------------------------------------------------

structure IsExpansion (set : StatefulSet) (spec : StatefulSetSpec) (name label : String)
    (count : Nat) (made : List Pod) : Prop where
  length_eq : made.length = count
  replica : ∀ i pod, made[i]? = some pod → IsReplica set spec name label i pod

theorem isExpansion_map_range (hne : name ≠ "") {count : Nat}
    (hcount : replicasAsked spec replicas = count) :
    IsExpansion set spec name label count ((List.range count).map (pod set spec name label)) where
  length_eq := by simp
  replica i made hmade := by
    obtain ⟨ordinal, hordinal, rfl⟩ := Option.map_eq_some_iff.mp (List.getElem?_map ▸ hmade)
    obtain ⟨hlt, rfl⟩ := List.getElem?_eq_some_iff.mp hordinal
    have hmax := replicasAsked_lt spec replicas
    simp only [List.length_range, List.getElem_range] at hlt ⊢
    exact isReplica_pod hne (by omega)

theorem IsExpansion.nodup {count : Nat} {made : List Pod}
    (h : IsExpansion set spec name label count made) : (made.map (·.metadata.name)).Nodup := by
  rw [List.nodup_iff_pairwise_ne, List.pairwise_map, List.pairwise_iff_getElem]
  intro i j hi hj hlt heq
  have hfirst := (h.replica i _ (List.getElem?_eq_getElem hi)).named
  have hsecond := (h.replica j _ (List.getElem?_eq_getElem hj)).named
  have hname := Option.some.inj (hfirst.symm.trans (heq.trans hsecond))
  exact Nat.ne_of_lt hlt (podName_inj.mp hname).2

theorem pods_prefix {fewer more : UInt32} (hle : fewer ≤ more) {smaller : List Pod}
    (h : pods set (some fewer) label = .ok smaller) :
    ∃ larger, pods set (some more) label = .ok larger ∧ smaller <+: larger := by
  obtain ⟨name, spec, count, hname, hne, hspec, hcount, rfl⟩ := pods_eq_ok_iff.mp h
  have hlarger : pods set (some more) label =
      .ok ((List.range more.toNat).map (pod set spec name label)) :=
    pods_eq_ok_iff.mpr ⟨name, spec, more.toNat, hname, hne, hspec, rfl, rfl⟩
  have hrange : List.range count <+: List.range more.toNat := by
    obtain rfl : fewer.toNat = count := Int.ofNat.inj hcount
    rw [← Nat.min_eq_left (UInt32.le_iff_toNat_le.mp hle), ← List.take_range]
    exact List.take_prefix _ _
  exact ⟨_, hlarger, hrange.map _⟩

end

/-- A set is expanded unless it has no name, no spec or a negative number of pods, and then each of
its pods is identified as a pod of that set, with the ordinals from zero on. An override says how
many of them there are and nothing else. -/
theorem pods_identified (set : StatefulSet) (replicas : Option UInt32) (label : String) :
    ((∃ error, pods set replicas label = .error error) ↔
      set.metadata.name.getD "" = "" ∨ set.spec = none ∨
        replicas = none ∧ ∃ spec declared, set.spec = some spec ∧
          spec.replicas = some declared ∧ declared.toInt < 0) ∧
    (∀ made, pods set replicas label = .ok made →
      ∃ name spec, ∃ count : Nat, set.metadata.name = some name ∧ set.spec = some spec ∧
        replicasAsked spec replicas = count ∧ IsExpansion set spec name label count made ∧
        (made.map (·.metadata.name)).Nodup) ∧
    (∀ fewer more : UInt32, fewer ≤ more → ∀ smaller,
      pods set (some fewer) label = .ok smaller →
      ∃ larger, pods set (some more) label = .ok larger ∧ smaller <+: larger) := by
  refine ⟨pods_error_iff, fun made hmade => ?_, fun fewer more hle smaller => pods_prefix hle⟩
  obtain ⟨name, spec, count, hname, hne, hspec, hcount, rfl⟩ := pods_eq_ok_iff.mp hmade
  have hexpansion : IsExpansion set spec name label count _ := isExpansion_map_range hne hcount
  exact ⟨name, spec, count, hname, hspec, hcount, hexpansion, hexpansion.nodup⟩

-- ---------------------------------------------------------------------------
-- The number a set starts from
-- ---------------------------------------------------------------------------

def firstOrdinal (spec : StatefulSetSpec) : Int := (spec.ordinals.bind (·.start)).elim 0 Int32.toInt

def NumberedFrom (first : Nat) (name label : String) (made : List Pod) : Prop :=
  ∀ i pod, made[i]? = some pod →
    pod.metadata.name = some (podName name (first + i)) ∧
      pod.metadata.labels.bind (·.get? label) = some (podName name (first + i))

theorem numberedFrom_iff {set : StatefulSet} {spec : StatefulSetSpec} {name label : String}
    {count : Nat} {made : List Pod} (h : IsExpansion set spec name label count made) (first : Nat) :
    NumberedFrom first name label made ↔ first = 0 ∨ count = 0 := by
  constructor
  · intro hnumbered
    by_cases hzero : count = 0
    · exact .inr hzero
    -- the first pod has the ordinal zero, whatever the set starts from
    have hlt : 0 < made.length := h.length_eq ▸ Nat.pos_of_ne_zero hzero
    have hfirst := List.getElem?_eq_getElem hlt
    have hname := (h.replica 0 _ hfirst).named.symm.trans (hnumbered 0 _ hfirst).1
    exact .inl (podName_inj.mp (Option.some.inj hname)).2.symm
  · rintro (rfl | rfl) i pod hpod
    · have hreplica := h.replica i pod hpod
      simpa using ⟨hreplica.named, hreplica.labelled⟩
    · rw [List.length_eq_zero_iff.mp h.length_eq] at hpod
      cases hpod

/-- The pods that a set is expanded to are those that the controller would create exactly when the
set starts from zero, or asks for no pod: the expansion does not read the number it starts from. -/
theorem numbered_from_start_iff (set : StatefulSet) (replicas : Option UInt32) (label : String)
    {name : String} {spec : StatefulSetSpec} {count first : Nat}
    (hname : set.metadata.name = some name) (hne : name ≠ "") (hspec : set.spec = some spec)
    (hcount : replicasAsked spec replicas = count) (hfirst : firstOrdinal spec = first) :
    ∃ made, pods set replicas label = .ok made ∧ made.length = count ∧
      NumberedFrom 0 name label made ∧
      (NumberedFrom first name label made ↔ firstOrdinal spec = 0 ∨ count = 0) := by
  have hmade : pods set replicas label = .ok ((List.range count).map (pod set spec name label)) :=
    pods_eq_ok_iff.mpr ⟨name, spec, count, hname, hne, hspec, hcount, rfl⟩
  have hexpansion : IsExpansion set spec name label count _ := isExpansion_map_range hne hcount
  refine ⟨_, hmade, hexpansion.length_eq, (numberedFrom_iff hexpansion 0).mpr (.inl rfl), ?_⟩
  rw [numberedFrom_iff hexpansion first, hfirst, Int.natCast_eq_zero]

theorem numbered_from_start_iff_web :
    let spec : StatefulSetSpec := { replicas := some 2, ordinals := some { start := some 0 } }
    let set : StatefulSet := { metadata := { name := some "web" }, spec := some spec }
    firstOrdinal spec = (0 : Nat) ∧ ∃ made, pods set none podNameLabel = .ok made ∧
      made.length = 2 ∧ NumberedFrom 0 "web" podNameLabel made := by
  intro spec set
  obtain ⟨made, hmade, hlength, hnumbered, -⟩ :=
    numbered_from_start_iff set none podNameLabel rfl (by decide) rfl
      (show replicasAsked spec none = (2 : Nat) by decide)
      (show firstOrdinal spec = (0 : Nat) by decide)
  exact ⟨by decide, made, hmade, hlength, hnumbered⟩

/-- The one pod of a set that starts from three is `web-0` and not `web-3`. -/
theorem not_numbered_from_three :
    let spec : StatefulSetSpec := { replicas := some 1, ordinals := some { start := some 3 } }
    let set : StatefulSet := { metadata := { name := some "web" }, spec := some spec }
    firstOrdinal spec = (3 : Nat) ∧ ∃ made, pods set none podNameLabel = .ok made ∧
      made.map (·.metadata.name) = [some "web-0"] ∧
      ¬ NumberedFrom 3 "web" podNameLabel made := by
  intro spec set
  refine ⟨by decide, _, rfl, by decide, fun h => ?_⟩
  have hname := (h 0 _ rfl).1
  revert hname
  decide

end Manifest

end OrdinalAdmission
