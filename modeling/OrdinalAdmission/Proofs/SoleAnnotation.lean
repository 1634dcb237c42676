import OrdinalAdmission.Proofs.Conflict
import OrdinalAdmission.Proofs.Interval
import OrdinalAdmission.Proofs.Validation

/-!
# One annotation for one feature

A qualifier that is any good is made of digits and hyphens, and these are no separators. So under a
valid configuration the key made for a feature and such a qualifier spells just these two, and a pod
with no other annotation in the namespace configures that feature and no other
(`configured_by_sole_annotation`).
-/

namespace OrdinalAdmission

open Kube

-- ---------------------------------------------------------------------------
-- What qualifiers are made of
-- ---------------------------------------------------------------------------

namespace Qualifier

theorem separator_not_mem {text : String} (h : parse text ≠ .never) {c : Char}
    (hc : Annotations.Scheme.isUnusable c = false) : c ∉ text.toList := by
  obtain ⟨interval, hspells⟩ := exists_spells_of_ne_never h
  intro hm
  rcases hspells.chars c hm with hdigit | rfl
  · simp [Annotations.Scheme.isUnusable, hdigit] at hc
  · simp [Annotations.Scheme.isUnusable] at hc

end Qualifier

-- ---------------------------------------------------------------------------
-- What is collected
-- ---------------------------------------------------------------------------

namespace Annotations

namespace Scheme

/-- Of all annotations whose keys start with the stem the metadata carry this one only. -/
structure CarriesOnly (scheme : Scheme) (metadata : Metadata) (key value : String) : Prop where
  carried : metadata.annotation? key = some value
  only : ∀ other, scheme.stem.toList <+: other.toList →
    (metadata.annotation? other).isSome = true → other = key

variable {scheme : Scheme} {metadata : Metadata} {name : Name} {value : String}

theorem stem_isPrefix_of_nameOf? {key : String} (h : scheme.nameOf? key = some name) :
    scheme.stem.toList <+: key.toList := by
  obtain ⟨rest, hrest, -⟩ := Option.map_eq_some_iff.mp h
  exact ⟨rest, (afterStem?_eq_some_iff.mp hrest).symm⟩

theorem toList_collect_of_carriesOnly {key : String} (h : scheme.CarriesOnly metadata key value)
    (hname : scheme.nameOf? key = some name) :
    (scheme.collect metadata).toList = [(name, value)] := by
  have hunique : ∀ other, (metadata.annotation? other).isSome = true →
      (∃ spelled, scheme.nameOf? other = some spelled) → other = key :=
    fun other ho ⟨_, hspelled⟩ => h.only other (stem_isPrefix_of_nameOf? hspelled) ho
  have hcollected : (scheme.collect metadata).get? name = some value := by
    refine get?_collect_of_greatest h.carried hname fun other ho hspelled => ?_
    rw [hunique other ho ⟨name, hspelled⟩]
    simp
  refine SortedMap.eq_of_mem_iff (scheme.collect metadata).increasing
    (List.pairwise_singleton _ _) fun (spelled, kept) => ?_
  rw [SortedMap.mem_toList_iff, List.mem_singleton, Prod.mk.injEq]
  constructor
  · intro hkept
    obtain ⟨other, ho, hspelled⟩ := isSome_get?_collect.mp (Option.isSome_of_eq_some hkept)
    obtain rfl := hunique other ho ⟨spelled, hspelled⟩
    obtain rfl : spelled = name := Option.some.inj (hspelled.symm.trans hname)
    exact ⟨rfl, Option.some.inj (hkept.symm.trans hcollected)⟩
  · rintro ⟨rfl, rfl⟩
    exact hcollected

end Scheme

theorem Collection.forFeature_of_sole {annotations : Collection} {name : Name} {value : String}
    (h : annotations.toList = [(name, value)]) (feature : String) :
    annotations.forFeature feature = if name.feature = feature then [(name, value)] else [] := by
  rw [forFeature, h]
  by_cases hf : name.feature = feature <;> simp [hf]

end Annotations

-- ---------------------------------------------------------------------------
-- What the features do
-- ---------------------------------------------------------------------------

namespace Feature

/-- The value is a configuration of the feature that asks for something, and by it, under the
qualifier, the spec becomes `left` for the ordinal. -/
inductive Makes (qualifier value : String) (ordinal : UInt32) (spec : PodSpec) :
    Feature → PodSpec → Prop where
  | hostPort {config : HostPort.Config} {left : PodSpec} :
      HostPort.Config.codec.read.decode value = .ok config →
      HostPort.mutate ⟨qualifier, config⟩ ordinal spec = (left, none) →
      Makes qualifier value ordinal spec hostPort left
  | mountVolume {config : MountVolume.Config} :
      MountVolume.Config.codec.read.decode value = .ok config → config.volumes ≠ [] →
      Makes qualifier value ordinal spec mountVolume
        (MountVolume.mutate ⟨qualifier, config⟩ ordinal spec)

section
variable {feature : Feature} {annotations : Annotations.Collection}

theorem apply_of_no_annotation (h : annotations.forFeature feature.name = []) (ordinal : UInt32)
    (spec : PodSpec) : feature.apply annotations ordinal spec = (spec, .ok .notConfigured) := by
  have hdeclared : ∀ {α : Type} (codec : Codec α),
      feature.declared? codec annotations = .ok none := by
    intro α codec
    rw [declared?, Annotations.Collection.declared?_of_nil h]
    rfl
  cases feature with
  | hostPort => rw [apply, HostPort.declared?, hdeclared, applyDeclared]
  | mountVolume => rw [apply, MountVolume.declared?, hdeclared]; rfl

theorem declared?_of_one_annotation {α : Type} {codec : Codec α} {qualifier value : String}
    {config : α} (h : annotations.forFeature feature.name = [(⟨feature.name, qualifier⟩, value)])
    (hdecoded : codec.read.decode value = .ok config) :
    feature.declared? codec annotations = .ok (some ⟨qualifier, config⟩) := by
  rw [declared?, Annotations.Collection.declared?_of_holdsOnly
    (Annotations.Collection.forFeature_eq_singleton_iff.mp h), hdecoded]
  rfl

theorem apply_of_one_annotation {qualifier value : String} {ordinal : UInt32}
    {spec left : PodSpec}
    (h : annotations.forFeature feature.name = [(⟨feature.name, qualifier⟩, value)])
    (hmakes : feature.Makes qualifier value ordinal spec left) :
    feature.apply annotations ordinal spec =
      (left, .ok (if qualifies qualifier ordinal = true then .applied else .excluded)) := by
  cases hmakes with
  | @hostPort config _ hdecoded hwork =>
    have hdeclared : HostPort.declared? annotations = .ok (some ⟨qualifier, config⟩) :=
      declared?_of_one_annotation h hdecoded
    rw [apply, hdeclared, applyDeclared]
    by_cases hq : qualifies qualifier ordinal = true
    · simp [Qualified.appliesTo, hq, hwork]
    · have hleft : left = spec := by
        simpa [HostPort.mutate, Qualified.appliesTo, hq, eq_comm] using hwork
      simp [Qualified.appliesTo, hq, hleft]
  | @mountVolume config hdecoded hvolumes =>
    have hdeclared : MountVolume.declared? annotations = .ok (some ⟨qualifier, config⟩) := by
      rw [MountVolume.declared?, declared?_of_one_annotation h hdecoded]
      simp [Except.map, Option.filter, hvolumes]
    rw [apply, hdeclared, applyDeclared]
    by_cases hq : qualifies qualifier ordinal = true
    · simp [Qualified.appliesTo, hq]
    · simp [MountVolume.mutate, Qualified.appliesTo, hq]

end

end Feature

namespace Config

/-- Under a valid configuration the key made for a listed feature and a qualifier with a meaning
spells these two. Where no other key of the namespace is annotated nothing else is collected, the
other features find no configuration, and the feature itself has an effect exactly where the
qualifier lets the ordinal in, provided that the value is a configuration and can be carried out. -/
theorem configured_by_sole_annotation (config : Config) (hvalid : config.validate = .ok ()) :
    ∃ scheme pipeline, config.scheme = .ok scheme ∧ config.pipeline = .ok pipeline ∧
      pipeline.scheme = scheme ∧ pipeline.features.map (·.name) = config.handlers ∧
      ∀ feature ∈ pipeline.features, ∀ qualifier, Qualifier.parse qualifier ≠ .never →
        scheme.nameOf? (scheme.keyOf ⟨feature.name, qualifier⟩) =
          some ⟨feature.name, qualifier⟩ ∧
        ∀ metadata value,
          scheme.CarriesOnly metadata (scheme.keyOf ⟨feature.name, qualifier⟩) value →
          (scheme.collect metadata).toList = [(⟨feature.name, qualifier⟩, value)] ∧
          (∀ other ∈ pipeline.features, other ≠ feature → ∀ ordinal spec,
            other.apply (scheme.collect metadata) ordinal spec = (spec, .ok .notConfigured)) ∧
          ∀ ordinal spec left, feature.Makes qualifier value ordinal spec left →
            feature.apply (scheme.collect metadata) ordinal spec =
              (left, .ok (if qualifies qualifier ordinal = true then .applied else .excluded)) := by
  obtain ⟨c, hc⟩ := validate_ok_iff.mp hvalid
  obtain ⟨features, hscheme, hpipeline, hnames⟩ := pipeline_of_valid hc
  refine ⟨_, _, hscheme, hpipeline, rfl, hnames, ?_⟩
  intro feature hfeature qualifier hqualifier
  have hname : Annotations.Scheme.nameOf? ⟨config.stem, c⟩
      (Annotations.Scheme.keyOf ⟨config.stem, c⟩ ⟨feature.name, qualifier⟩) =
        some ⟨feature.name, qualifier⟩ := by
    rw [Annotations.Scheme.nameOf?_keyOf_iff]
    split
    · exact hc.free feature.name (hnames ▸ List.mem_map_of_mem hfeature)
    · exact Qualifier.separator_not_mem hqualifier hc.usable
  refine ⟨hname, fun metadata value honly => ?_⟩
  have hcollected := Annotations.Scheme.toList_collect_of_carriesOnly honly hname
  have hentries := Annotations.Collection.forFeature_of_sole hcollected
  refine ⟨hcollected, fun other _ hne => ?_, fun ordinal spec left hmakes => ?_⟩
  · refine Feature.apply_of_no_annotation ?_
    rw [hentries, if_neg fun h => hne (Feature.name_inj.mp h).symm]
  · refine Feature.apply_of_one_annotation ?_ hmakes
    rw [hentries, if_pos rfl]

def arrows : Config :=
  { stem := "a→b/", separator := "→", handlers := ["host-port", "mount-volume"] }

def portless : String := r#"{"containers": [{"name": "a"}]}"#

def arrowAnnotated : Metadata :=
  Feature.annotated [("a→b/host-port→1-5", portless), ("a/mount-volume", "[")]

theorem configured_by_sole_annotation_arrows :
    arrows.validate = .ok () ∧ Qualifier.parse "1-5" ≠ .never ∧
    ∃ scheme pipeline, arrows.scheme = .ok scheme ∧ arrows.pipeline = .ok pipeline ∧
      scheme.CarriesOnly arrowAnnotated (scheme.keyOf ⟨"host-port", "1-5"⟩) portless ∧
      (scheme.collect arrowAnnotated).toList = [(⟨"host-port", "1-5"⟩, portless)] ∧
      let plain : PodSpec := { containers := [{ name := "a" }] }
      let told : PodSpec := { containers := [
        { name := "a", env := some [{ name := "POD_ORDINAL", value := some "3" }] }] }
      Feature.mountVolume.apply (scheme.collect arrowAnnotated) 3 plain =
        (plain, .ok .notConfigured) ∧
      Feature.hostPort.apply (scheme.collect arrowAnnotated) 3 plain = (told, .ok .applied) ∧
      Feature.hostPort.apply (scheme.collect arrowAnnotated) 6 plain = (plain, .ok .excluded) := by
  have hvalid : arrows.validate = .ok () := by decide +kernel
  have hlive : Qualifier.parse "1-5" ≠ .never := by decide +kernel
  obtain ⟨scheme, pipeline, hscheme, hpipeline, -, hnames, hall⟩ :=
    configured_by_sole_annotation arrows hvalid
  obtain rfl : scheme = ⟨"a→b/", '→'⟩ := by
    have hown : arrows.scheme = .ok ⟨"a→b/", '→'⟩ := by decide +kernel
    exact Except.ok.inj (hscheme.symm.trans hown)
  have listed : ∀ feature : Feature, feature ∈ pipeline.features := by
    intro feature
    have hm : feature.name ∈ pipeline.features.map (·.name) := by
      rw [hnames]
      cases feature <;> decide
    obtain ⟨other, ho, hsame⟩ := List.mem_map.mp hm
    exact Feature.name_inj.mp hsame ▸ ho
  have honly : Annotations.Scheme.CarriesOnly ⟨"a→b/", '→'⟩ arrowAnnotated
      (Annotations.Scheme.keyOf ⟨"a→b/", '→'⟩ ⟨"host-port", "1-5"⟩) portless := by
    refine ⟨by decide +kernel, fun other hstem hcarried => ?_⟩
    have hkeys : other = "a/mount-volume" ∨ other = "a→b/host-port→1-5" := by
      by_contra hnone
      obtain ⟨hfirst, hsecond⟩ := not_or.mp hnone
      simp [arrowAnnotated, Feature.annotated, Metadata.annotation?, SortedMap.ofList,
        SortedMap.get?_insert, hfirst, hsecond] at hcarried
    rcases hkeys with rfl | rfl
    · exact absurd hstem (by decide)
    · decide +kernel
  have hdecoded : HostPort.Config.codec.read.decode portless =
      .ok { containers := [{ name := "a" }] } := by decide +kernel
  obtain ⟨-, hconfigured⟩ := hall .hostPort (listed _) "1-5" hlive
  obtain ⟨hcollected, hothers, hown⟩ := hconfigured arrowAnnotated _ honly
  refine ⟨hvalid, hlive, _, pipeline, hscheme, hpipeline, honly, hcollected, ?_, ?_, ?_⟩
  · exact hothers .mountVolume (listed _) (by decide) 3 _
  · exact hown 3 _ _ (.hostPort hdecoded (by decide +kernel))
  · exact hown 6 _ _ (.hostPort hdecoded (by decide +kernel))

end Config

end OrdinalAdmission
