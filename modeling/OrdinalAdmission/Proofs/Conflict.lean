import OrdinalAdmission.Proofs.Declaration
import OrdinalAdmission.Proofs.Reshape

/-!
# Conflicting annotations

A feature refuses its annotations when two names are collected for it. Two keys give two names
unless they spell one, and only the plain key and the key that ends with a separator do: of these
two alone the value under the longer key counts and the other is lost without an error.
-/

namespace OrdinalAdmission

open Kube

-- ---------------------------------------------------------------------------
-- Names collected for a feature
-- ---------------------------------------------------------------------------

namespace Annotations.Scheme

variable {scheme : Scheme} {metadata : Metadata} {feature key : String} {name : Name}

def Carries (scheme : Scheme) (metadata : Metadata) (feature key : String) : Prop :=
  (metadata.annotation? key).isSome = true ∧
    ∃ name, scheme.nameOf? key = some name ∧ name.feature = feature

theorem Carries.feature_eq (h : scheme.Carries metadata feature key)
    (hname : scheme.nameOf? key = some name) : name.feature = feature := by
  obtain ⟨spelled, hspelled, hfeature⟩ := h.2
  rw [← hfeature, Option.some.inj (hname.symm.trans hspelled)]

theorem Carries.name_of_unqualified (h : scheme.Carries metadata feature key)
    (hkey : key = scheme.plainKey feature ∨ key = scheme.trailingKey feature)
    (hname : scheme.nameOf? key = some name) : name = ⟨feature, ""⟩ := by
  obtain rfl := h.feature_eq hname
  rw [← qualifier_of_unqualified hname hkey]

theorem exists_mem_forFeature :
    (∃ value, (name, value) ∈ (scheme.collect metadata).forFeature feature) ↔
      ∃ key, scheme.Carries metadata feature key ∧ scheme.nameOf? key = some name := by
  simp only [mem_forFeature, exists_and_left, ← Option.isSome_iff_exists, isSome_get?_collect]
  constructor
  · rintro ⟨hfeature, key, hkey, hname⟩
    exact ⟨key, ⟨hkey, name, hname, hfeature⟩, hname⟩
  · rintro ⟨key, hkey, hname⟩
    exact ⟨hkey.feature_eq hname, key, hkey.1, hname⟩

/-- Two names are collected for a feature with two keys exactly when one of its keys is neither the
plain one nor the one that ends with a separator. -/
theorem exists_two_names_iff {one other : String} (hone : scheme.Carries metadata feature one)
    (hother : scheme.Carries metadata feature other) (hne : one ≠ other) :
    (∃ first second, first ≠ second ∧
        (∃ value, (first, value) ∈ (scheme.collect metadata).forFeature feature) ∧
        ∃ value, (second, value) ∈ (scheme.collect metadata).forFeature feature) ↔
      ∃ key, scheme.Carries metadata feature key ∧
        key ≠ scheme.plainKey feature ∧ key ≠ scheme.trailingKey feature := by
  simp only [exists_mem_forFeature]
  constructor
  · rintro ⟨first, second, hnames, ⟨key, hkey, hfirst⟩, key', hkey', hsecond⟩
    by_contra hnone
    have hunqualified : ∀ {key name}, scheme.Carries metadata feature key →
        scheme.nameOf? key = some name → name = ⟨feature, ""⟩ := fun {key name} hcarries hname =>
      hcarries.name_of_unqualified (by_contra fun h => hnone ⟨key, hcarries, not_or.mp h⟩) hname
    exact hnames ((hunqualified hkey hfirst).trans (hunqualified hkey' hsecond).symm)
  · rintro ⟨key, hkey, hplain, htrailing⟩
    -- One of the two keys differs from this one, hence so does the name that it spells.
    obtain ⟨distinct, hdistinct, hne⟩ : ∃ distinct, scheme.Carries metadata feature distinct ∧
        key ≠ distinct := by
      by_cases hsame : key = one
      · exact ⟨other, hother, hsame ▸ hne⟩
      · exact ⟨one, hone, hsame⟩
    obtain ⟨first, hfirst, rfl⟩ := hkey.2
    obtain ⟨second, hsecond, -⟩ := hdistinct.2
    refine ⟨first, second, ?_, ⟨key, hkey, hfirst⟩, distinct, hdistinct, hsecond⟩
    rintro rfl
    rcases (keys_of_one_name hfirst hsecond hne).2 with ⟨h, -⟩ | ⟨h, -⟩
    · exact hplain h
    · exact htrailing h

theorem forFeature_of_unqualified {one other : String} (hone : scheme.Carries metadata feature one)
    (hother : scheme.Carries metadata feature other) (hne : one ≠ other)
    (hall : ∀ key, scheme.Carries metadata feature key →
      key = scheme.plainKey feature ∨ key = scheme.trailingKey feature) :
    ∃ kept, metadata.annotation? (scheme.trailingKey feature) = some kept ∧
      (scheme.collect metadata).forFeature feature = [(⟨feature, ""⟩, kept)] := by
  have htrailing : scheme.Carries metadata feature (scheme.trailingKey feature) := by
    rcases hall one hone with rfl | rfl
    · rcases hall other hother with rfl | rfl
      · exact absurd rfl hne
      · exact hother
    · exact hone
  obtain ⟨kept, hkept⟩ := Option.isSome_iff_exists.mp htrailing.1
  have hcollected : (scheme.collect metadata).get? ⟨feature, ""⟩ = some kept := by
    rw [get?_collect_unqualified, hkept, Option.some_or]
  refine ⟨kept, hkept, SortedMap.eq_of_mem_iff ((scheme.collect metadata).increasing.filter _)
    (List.pairwise_singleton _ _) fun (name, value) => ?_⟩
  refine mem_forFeature.trans ?_
  rw [List.mem_singleton, Prod.mk.injEq]
  constructor
  · rintro ⟨hfeature, hvalue⟩
    obtain ⟨key, hcarries, hname⟩ :=
      exists_mem_forFeature.mp ⟨value, mem_forFeature.mpr ⟨hfeature, hvalue⟩⟩
    obtain rfl := hcarries.name_of_unqualified (hall key hcarries) hname
    exact ⟨rfl, Option.some.inj (hvalue.symm.trans hcollected)⟩
  · rintro ⟨rfl, rfl⟩
    exact ⟨rfl, hcollected⟩

end Annotations.Scheme

-- ---------------------------------------------------------------------------
-- Features that refuse their annotations
-- ---------------------------------------------------------------------------

namespace Feature

def Refuses (annotations : Annotations.Collection) (error : MutationError) : Feature → Prop
  | hostPort => HostPort.declared? annotations = .error error
  | mountVolume => MountVolume.declared? annotations = .error error

section
variable {feature : Feature} {annotations : Annotations.Collection}

theorem declared?_conflicting_iff {α : Type} {codec : Codec α} :
    (∃ qualifiers, feature.declared? codec annotations =
      .error (.conflicting feature qualifiers)) ↔
      2 ≤ (annotations.forFeature feature.name).length := by
  rw [← Annotations.Collection.declared?_eq_conflicting_iff codec]
  refine exists_congr fun qualifiers => mapError_eq_error_iff.trans ?_
  constructor
  · rintro ⟨fault, hfault, hqualifiers⟩
    cases fault with
    | undecodable => cases hqualifiers
    | conflicting =>
      cases hqualifiers
      exact hfault
  · intro h
    exact ⟨_, h, rfl⟩

theorem refuses_conflicting_iff :
    (∃ qualifiers, feature.Refuses annotations (.conflicting feature qualifiers)) ↔
      2 ≤ (annotations.forFeature feature.name).length := by
  cases feature with
  | hostPort => exact declared?_conflicting_iff
  | mountVolume =>
    simp only [Refuses, declared?_eq_error_iff]
    exact declared?_conflicting_iff

theorem apply_of_refuses {error : MutationError} (h : feature.Refuses annotations error)
    (ordinal : UInt32) (spec : PodSpec) :
    feature.apply annotations ordinal spec = (spec, .error error) := by
  cases feature with
  | hostPort =>
    rw [Refuses] at h
    simp [apply, applyDeclared, h]
  | mountVolume =>
    rw [Refuses] at h
    simp [apply, applyDeclared, h]

/-- A feature with two annotation keys refuses them as conflicting, and leaves every spec as it is,
exactly when one of its keys is neither the plain one nor the one that ends with a separator. With
these two alone the value under the longer one is all that is collected. -/
theorem conflict_reported_iff (scheme : Annotations.Scheme) (metadata : Metadata)
    (feature : Feature) {one other : String} (hone : scheme.Carries metadata feature.name one)
    (hother : scheme.Carries metadata feature.name other) (hne : one ≠ other) :
    ((∃ qualifiers,
        feature.Refuses (scheme.collect metadata) (.conflicting feature qualifiers) ∧
        ∀ ordinal spec, feature.apply (scheme.collect metadata) ordinal spec =
          (spec, .error (.conflicting feature qualifiers))) ↔
      ∃ key, scheme.Carries metadata feature.name key ∧
        key ≠ scheme.plainKey feature.name ∧ key ≠ scheme.trailingKey feature.name) ∧
    ((∀ key, scheme.Carries metadata feature.name key →
        key = scheme.plainKey feature.name ∨ key = scheme.trailingKey feature.name) →
      ∃ kept, metadata.annotation? (scheme.trailingKey feature.name) = some kept ∧
        (scheme.collect metadata).forFeature feature.name = [(⟨feature.name, ""⟩, kept)]) := by
  refine ⟨?_, Annotations.Scheme.forFeature_of_unqualified hone hother hne⟩
  rw [← Annotations.Scheme.exists_two_names_iff hone hother hne,
    ← Annotations.Collection.two_le_length_forFeature, ← refuses_conflicting_iff]
  constructor
  · rintro ⟨qualifiers, hrefuses, -⟩
    exact ⟨qualifiers, hrefuses⟩
  · rintro ⟨qualifiers, hrefuses⟩
    exact ⟨qualifiers, hrefuses, apply_of_refuses hrefuses⟩

end

def annotated (annotations : List (String × String)) : Metadata :=
  { annotations := some (.ofList annotations) }

def threeKeys : Metadata :=
  annotated [
    ("spoditor.io/host-port", r#"{"containers": []}"#),
    ("spoditor.io/host-port_", r#"{"containers": []}"#),
    ("spoditor.io/host-port_1-", r#"{"containers": []}"#)]

theorem conflict_reported_iff_three_keys :
    Annotations.Scheme.standard.Carries threeKeys "host-port" "spoditor.io/host-port" ∧
    Annotations.Scheme.standard.Carries threeKeys "host-port" "spoditor.io/host-port_1-" ∧
    "spoditor.io/host-port" ≠ "spoditor.io/host-port_1-" ∧
    ∃ qualifiers, hostPort.Refuses (Annotations.Scheme.standard.collect threeKeys)
      (.conflicting hostPort qualifiers) := by
  have hplain : Annotations.Scheme.standard.Carries threeKeys "host-port"
      "spoditor.io/host-port" := ⟨by decide +kernel, ⟨"host-port", ""⟩, by decide +kernel, rfl⟩
  have hqualified : Annotations.Scheme.standard.Carries threeKeys "host-port"
      "spoditor.io/host-port_1-" :=
    ⟨by decide +kernel, ⟨"host-port", "1-"⟩, by decide +kernel, rfl⟩
  have hne : "spoditor.io/host-port" ≠ "spoditor.io/host-port_1-" := by decide
  obtain ⟨qualifiers, hrefuses, -⟩ :=
    (conflict_reported_iff .standard threeKeys hostPort hplain hqualified hne).1.mpr
      ⟨_, hqualified, by decide +kernel, by decide +kernel⟩
  exact ⟨hplain, hqualified, hne, qualifiers, hrefuses⟩

def twoUnqualified : Metadata :=
  annotated [
    ("spoditor.io/host-port", r#"{"containers": [{"name": "a"}]}"#),
    ("spoditor.io/host-port_", r#"{"containers": []}"#)]

/-- Two keys of a feature do not always conflict, although the scheme is usable and its separator is
in no feature's name: here the configuration that names a container is lost. -/
theorem not_conflicting_two_unqualified :
    Annotations.Scheme.make "spoditor.io/" '_' = .ok .standard ∧
    (∀ feature : Feature, '_' ∉ feature.name.toList) ∧
    Annotations.Scheme.standard.Carries twoUnqualified "host-port" "spoditor.io/host-port" ∧
    Annotations.Scheme.standard.Carries twoUnqualified "host-port" "spoditor.io/host-port_" ∧
    "spoditor.io/host-port" ≠ "spoditor.io/host-port_" ∧
    HostPort.declared? (Annotations.Scheme.standard.collect twoUnqualified) =
      .ok (some ⟨"", { containers := [] }⟩) ∧
    ¬ ∃ qualifiers, hostPort.Refuses (Annotations.Scheme.standard.collect twoUnqualified)
      (.conflicting hostPort qualifiers) := by
  have hdeclared : HostPort.declared? (Annotations.Scheme.standard.collect twoUnqualified) =
      .ok (some ⟨"", { containers := [] }⟩) := by
    decide +kernel
  refine ⟨by decide +kernel, ?_, ⟨by decide +kernel, ⟨"host-port", ""⟩, by decide +kernel, rfl⟩,
    ⟨by decide +kernel, ⟨"host-port", ""⟩, by decide +kernel, rfl⟩, by decide, hdeclared, ?_⟩
  · intro feature
    cases feature <;> decide
  · rintro ⟨qualifiers, hrefuses⟩
    rw [Refuses, hdeclared] at hrefuses
    cases hrefuses

end Feature

end OrdinalAdmission
