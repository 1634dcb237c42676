import OrdinalAdmission.Kube.Pod
import OrdinalAdmission.Proofs.Canonical

/-!
# A Kubernetes object is determined by what is written of it

A codec is faithful when it writes canonical values and no two values alike. An object's fields are
written under keys of their own in increasing order, an optional one exactly when it is present, so
an object is faithful when its fields are and together they make up the record.
-/

namespace OrdinalAdmission

open Json (Increasing Canonical member?)

-- ---------------------------------------------------------------------------
-- Plain values, lists and maps
-- ---------------------------------------------------------------------------

/-- What the codec writes is canonical and tells the value. -/
structure Codec.Faithful {α : Type} (codec : Codec α) : Prop where
  canonical : ∀ value, (codec.encode value).Canonical
  injective : ∀ a b, codec.encode a = codec.encode b → a = b

namespace Codec

section
variable {α σ : Type}

theorem Faithful.encode_inj {codec : Codec α} (h : codec.Faithful) {a b : α} :
    codec.encode a = codec.encode b ↔ a = b :=
  ⟨h.injective a b, fun he => he ▸ rfl⟩

@[simp] theorem text_faithful : text.Faithful where
  canonical value := .scalar (.text value)
  injective a b h := by
    simpa [text, Json.text] using h

@[simp] theorem bool_faithful : bool.Faithful where
  canonical value := .scalar (.bool value)
  injective a b h := by
    simpa [bool, Json.bool] using h

@[simp] theorem int32_faithful : int32.Faithful where
  canonical value := .scalar (.int value.toInt)
  injective a b h := by
    simpa [int32, Json.int, Int32.toInt_inj] using h

@[simp] theorem int64_faithful : int64.Faithful where
  canonical value := .scalar (.int value.toInt)
  injective a b h := by
    simpa [int64, Json.int, Int64.toInt_inj] using h

@[simp] theorem list_faithful {item : Codec α} (h : item.Faithful) : (list item).Faithful where
  canonical values := by
    refine .list fun written hw => ?_
    obtain ⟨value, -, rfl⟩ := List.mem_map.mp hw
    exact h.canonical value
  injective a b he := by
    have hmap : a.map item.encode = b.map item.encode := Json.list.inj he
    exact (List.map_inj_right h.injective).mp hmap

@[simp] theorem textMap_faithful : textMap.Faithful where
  canonical m := by
    refine .object (m.increasing.map _ fun a b hlt => hlt) fun member hm => ?_
    obtain ⟨entry, -, rfl⟩ := List.mem_map.mp hm
    exact .scalar _
  injective a b he := by
    have hmap := Json.object.inj he
    have hlist : a.toList = b.toList := by
      refine (List.map_inj_right ?_).mp hmap
      rintro ⟨k, v⟩ ⟨k', v'⟩ h
      simpa [Json.text] using h
    cases a
    cases b
    cases hlist
    rfl

-- ---------------------------------------------------------------------------
-- Fields and objects
-- ---------------------------------------------------------------------------

def Field.WritesCanonical (field : Field σ) : Prop :=
  ∀ record value, field.encode record = some value → value.Canonical

section
variable {key : String} {codec : Codec α} {a b : σ}

@[simp] theorem Field.optional_canonical {get : σ → Option α} {set : Option α → σ → σ}
    (h : codec.Faithful) : (Field.optional key codec get set).WritesCanonical := by
  intro record value he
  obtain ⟨present, -, rfl⟩ := Option.map_eq_some_iff.mp he
  exact h.canonical present

@[simp] theorem Field.defaulted_canonical {blank : α} {get : σ → α} {set : α → σ → σ}
    (h : codec.Faithful) : (Field.defaulted key codec blank get set).WritesCanonical := by
  rintro record value ⟨⟩
  exact h.canonical (get record)

@[simp] theorem Field.fixed_canonical {value : String} :
    (Field.fixed (σ := σ) key value).WritesCanonical := by
  rintro record written ⟨⟩
  exact .scalar _

@[simp] theorem Field.optional_encode_inj {get : σ → Option α} {set : Option α → σ → σ}
    (h : codec.Faithful) :
    (Field.optional key codec get set).encode a = (Field.optional key codec get set).encode b ↔
      get a = get b := by
  refine ⟨fun he => ?_, fun he => congrArg (Option.map codec.encode) he⟩
  exact Option.map_injective h.injective he

@[simp] theorem Field.defaulted_encode_inj {blank : α} {get : σ → α} {set : α → σ → σ}
    (h : codec.Faithful) :
    (Field.defaulted key codec blank get set).encode a =
      (Field.defaulted key codec blank get set).encode b ↔ get a = get b := by
  simp [Field.defaulted, h.encode_inj]

@[simp] theorem Field.fixed_encode {value : String} (record : σ) :
    (Field.fixed key value).encode record = some (Json.text value) := rfl

end

def KeysIncrease (fields : List (Field σ)) : Prop :=
  (fields.map (·.key)).Pairwise fun a b => compare a b = .lt

instance (fields : List (Field σ)) : Decidable (KeysIncrease fields) := by
  unfold KeysIncrease
  infer_instance

def written (fields : List (Field σ)) (record : σ) : List (String × Json) :=
  fields.filterMap fun field => (field.encode record).map (field.key, ·)

theorem mem_written {fields : List (Field σ)} {record : σ} {member : String × Json} :
    member ∈ written fields record ↔
      ∃ field ∈ fields, field.key = member.1 ∧ field.encode record = some member.2 := by
  obtain ⟨key, value⟩ := member
  simp only [written, List.mem_filterMap, Option.map_eq_some_iff, Prod.mk.injEq]
  constructor
  · rintro ⟨field, hf, _, he, hk, rfl⟩
    exact ⟨field, hf, hk, he⟩
  · rintro ⟨field, hf, hk, he⟩
    exact ⟨field, hf, value, he, hk, rfl⟩

theorem increasing_written {fields : List (Field σ)} (h : KeysIncrease fields) (record : σ) :
    Increasing (written fields record) := by
  induction fields with
  | nil => exact .nil
  | cons field rest ih =>
    obtain ⟨hlt, hrest⟩ := List.pairwise_cons.mp h
    cases he : field.encode record with
    | none => simpa [written, he] using ih hrest
    | some value =>
      have hcons : written (field :: rest) record = (field.key, value) :: written rest record := by
        simp [written, he]
      rw [hcons]
      refine List.pairwise_cons.mpr ⟨fun member hm => ?_, ih hrest⟩
      obtain ⟨other, ho, hk, -⟩ := mem_written.mp hm
      exact hk ▸ hlt other.key (List.mem_map_of_mem ho)

theorem eq_of_key_eq {fields : List (Field σ)} (h : KeysIncrease fields) {first second : Field σ}
    (hf : first ∈ fields) (hs : second ∈ fields) (hk : first.key = second.key) :
    first = second := by
  induction fields with
  | nil => cases hf
  | cons field rest ih =>
    obtain ⟨hlt, hrest⟩ := List.pairwise_cons.mp h
    have hne : ∀ other ∈ rest, field.key ≠ other.key := by
      intro other ho he
      have := hlt other.key (List.mem_map_of_mem ho)
      simp [he] at this
    rcases List.mem_cons.mp hf with rfl | hf'
    · rcases List.mem_cons.mp hs with rfl | hs'
      · rfl
      · exact absurd hk (hne second hs')
    · rcases List.mem_cons.mp hs with rfl | hs'
      · exact absurd hk.symm (hne first hf')
      · exact ih hrest hf' hs'

theorem member?_written {fields : List (Field σ)} (hk : KeysIncrease fields) {field : Field σ}
    (hf : field ∈ fields) (record : σ) :
    member? field.key (written fields record) = field.encode record := by
  refine Option.ext fun value => ?_
  rw [Json.member?_eq_some_iff (increasing_written hk record), mem_written]
  constructor
  · rintro ⟨other, ho, he, hv⟩
    exact eq_of_key_eq hk ho hf he ▸ hv
  · exact fun hv => ⟨field, hf, rfl, hv⟩

/-- A record whose fields write canonical values under keys of their own, and which is made up of
what they write, is written faithfully. -/
theorem object_faithful {blank : σ} {fields : List (Field σ)} (hk : KeysIncrease fields)
    (hcanonical : ∀ field ∈ fields, field.WritesCanonical)
    (hext : ∀ a b : σ, (∀ field ∈ fields, field.encode a = field.encode b) → a = b) :
    (object blank fields).Faithful where
  canonical record := by
    refine .object (increasing_written hk record) fun member hm => ?_
    obtain ⟨field, hf, -, he⟩ := mem_written.mp hm
    exact hcanonical field hf record member.2 he
  injective a b h := by
    have hw : written fields a = written fields b := Json.object.inj h
    refine hext a b fun field hf => ?_
    rw [← member?_written hk hf a, ← member?_written hk hf b, hw]

end

end Codec

-- ---------------------------------------------------------------------------
-- The objects of a pod
-- ---------------------------------------------------------------------------

namespace Kube

open Codec (object_faithful)

@[simp] theorem ContainerPort.codec_faithful : ContainerPort.codec.Faithful :=
  object_faithful (by decide) (by simp) (by rintro ⟨⟩ ⟨⟩ h; simpa using h)

@[simp] theorem KeySelector.codec_faithful : KeySelector.codec.Faithful :=
  object_faithful (by decide) (by simp) (by rintro ⟨⟩ ⟨⟩ h; simpa using h)

@[simp] theorem FieldSelector.codec_faithful : FieldSelector.codec.Faithful :=
  object_faithful (by decide) (by simp) (by rintro ⟨⟩ ⟨⟩ h; simpa using h)

@[simp] theorem EnvSource.codec_faithful : EnvSource.codec.Faithful :=
  object_faithful (by decide) (by simp) (by rintro ⟨⟩ ⟨⟩ h; simpa using h)

@[simp] theorem EnvVar.codec_faithful : EnvVar.codec.Faithful :=
  object_faithful (by decide) (by simp) (by rintro ⟨⟩ ⟨⟩ h; simpa using h)

@[simp] theorem VolumeMount.codec_faithful : VolumeMount.codec.Faithful :=
  object_faithful (by decide) (by simp) (by rintro ⟨⟩ ⟨⟩ h; simpa using h)

@[simp] theorem Resources.codec_faithful : Resources.codec.Faithful :=
  object_faithful (by decide) (by simp) (by rintro ⟨⟩ ⟨⟩ h; simpa using h)

@[simp] theorem Container.codec_faithful : Container.codec.Faithful :=
  object_faithful (by decide) (by simp) (by rintro ⟨⟩ ⟨⟩ h; simpa using h)

@[simp] theorem KeyToPath.codec_faithful : KeyToPath.codec.Faithful :=
  object_faithful (by decide) (by simp) (by rintro ⟨⟩ ⟨⟩ h; simpa using h)

@[simp] theorem ConfigMapSource.codec_faithful : ConfigMapSource.codec.Faithful :=
  object_faithful (by decide) (by simp) (by rintro ⟨⟩ ⟨⟩ h; simpa using h)

@[simp] theorem EmptyDirSource.codec_faithful : EmptyDirSource.codec.Faithful :=
  object_faithful (by decide) (by simp) (by rintro ⟨⟩ ⟨⟩ h; simpa using h)

@[simp] theorem HostPathSource.codec_faithful : HostPathSource.codec.Faithful :=
  object_faithful (by decide) (by simp) (by rintro ⟨⟩ ⟨⟩ h; simpa using h)

@[simp] theorem ClaimSource.codec_faithful : ClaimSource.codec.Faithful :=
  object_faithful (by decide) (by simp) (by rintro ⟨⟩ ⟨⟩ h; simpa using h)

@[simp] theorem ProjectedReference.codec_faithful : ProjectedReference.codec.Faithful :=
  object_faithful (by decide) (by simp) (by rintro ⟨⟩ ⟨⟩ h; simpa using h)

@[simp] theorem Projection.codec_faithful : Projection.codec.Faithful :=
  object_faithful (by decide) (by simp) (by rintro ⟨⟩ ⟨⟩ h; simpa using h)

@[simp] theorem ProjectedSource.codec_faithful : ProjectedSource.codec.Faithful :=
  object_faithful (by decide) (by simp) (by rintro ⟨⟩ ⟨⟩ h; simpa using h)

@[simp] theorem SecretSource.codec_faithful : SecretSource.codec.Faithful :=
  object_faithful (by decide) (by simp) (by rintro ⟨⟩ ⟨⟩ h; simpa using h)

@[simp] theorem Volume.codec_faithful : Volume.codec.Faithful :=
  object_faithful (by decide) (by simp) (by rintro ⟨⟩ ⟨⟩ h; simpa using h)

@[simp] theorem Metadata.codec_faithful : Metadata.codec.Faithful :=
  object_faithful (by decide) (by simp) (by rintro ⟨⟩ ⟨⟩ h; simpa using h)

@[simp] theorem PodSpec.codec_faithful : PodSpec.codec.Faithful :=
  object_faithful (by decide) (by simp) (by rintro ⟨⟩ ⟨⟩ h; simpa using h)

@[simp] theorem Pod.codec_faithful : Pod.codec.Faithful :=
  object_faithful (by decide) (by simp) (by rintro ⟨⟩ ⟨⟩ h; simpa using h)

end Kube

end OrdinalAdmission
