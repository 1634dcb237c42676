import OrdinalAdmission.Proofs.Collection
import OrdinalAdmission.Proofs.Spelling

/-!
# What is kept of the annotations

A name with a qualifier is spelled by one key, so it is kept with the value of that key. A feature
without a qualifier has two keys, and the one that ends with a separator counts before the plain one,
which spells the feature only if there is no separator in it. Nothing else is kept, and what is kept
stands in the order of the features and, within a feature, of the qualifiers.
-/

namespace OrdinalAdmission

open Kube

theorem getLast?_of_greatest {κ α : Type} [Ord κ] {entries : List (κ × α)}
    (h : entries.Pairwise fun a b => compare a.1 b.1 = .lt) {e : κ × α} (he : e ∈ entries)
    (hgreatest : ∀ other ∈ entries, compare e.1 other.1 ≠ .lt) : entries.getLast? = some e := by
  rcases List.eq_nil_or_concat entries with rfl | ⟨earlier, last, rfl⟩
  · cases he
  · rw [List.concat_eq_append] at h he hgreatest ⊢
    rw [List.getLast?_concat]
    rcases List.mem_append.mp he with hm | hm
    · have hlt := (List.pairwise_append.mp h).2.2 e hm last (List.mem_singleton_self last)
      exact absurd hlt (hgreatest last (by simp))
    · rw [List.mem_singleton.mp hm]

namespace Annotations

namespace Name

theorem compare_eq_lt_iff {one other : Name} :
    compare one other = .lt ↔ one.feature < other.feature ∨
      one.feature = other.feature ∧ one.qualifier < other.qualifier := by
  have hcompare : compare one other =
      (compare one.feature other.feature).then (compare one.qualifier other.qualifier) := rfl
  rw [hcompare, Ordering.then_eq_lt, Std.LawfulEqCmp.compare_eq_iff_eq]
  exact or_congr compareOfLessAndEq_eq_lt (and_congr_right' compareOfLessAndEq_eq_lt)

end Name

theorem mem_forFeature {annotations : Collection} {name : Name} {feature value : String} :
    (name, value) ∈ annotations.forFeature feature ↔
      name.feature = feature ∧ annotations.get? name = some value := by
  simp [Collection.forFeature, SortedMap.mem_toList_iff, and_comm]

namespace Scheme

variable {scheme : Scheme} {metadata : Metadata} {name : Name} {feature key : String}

-- ---------------------------------------------------------------------------
-- Names and the annotations that spell them
-- ---------------------------------------------------------------------------

theorem mem_spellings {value : String} :
    (key, value) ∈ scheme.spellings name (metadata.annotations.getD ∅).toList ↔
      metadata.annotation? key = some value ∧ scheme.nameOf? key = some name := by
  rw [Metadata.annotation?_eq]
  simp [spellings, SortedMap.mem_toList_iff]

theorem isSome_get?_collect :
    ((scheme.collect metadata).get? name).isSome = true ↔
      ∃ key, (metadata.annotation? key).isSome = true ∧ scheme.nameOf? key = some name := by
  rw [collect_eq, get?_collectFrom, Option.isSome_map, List.getLast?_isSome, ne_eq,
    List.eq_nil_iff_forall_not_mem]
  simp [mem_spellings, Option.isSome_iff_exists]

/-- The greatest key that spells a name gives it its value. -/
theorem get?_collect_of_greatest {value : String} (hvalue : metadata.annotation? key = some value)
    (hname : scheme.nameOf? key = some name)
    (hgreatest : ∀ other, (metadata.annotation? other).isSome = true →
      scheme.nameOf? other = some name → compare key other ≠ .lt) :
    (scheme.collect metadata).get? name = some value := by
  have hsorted : (scheme.spellings name (metadata.annotations.getD ∅).toList).Pairwise
      fun a b => compare a.1 b.1 = .lt := (metadata.annotations.getD ∅).increasing.filter _
  rw [collect_eq, get?_collectFrom,
    getLast?_of_greatest hsorted (mem_spellings.mpr ⟨hvalue, hname⟩), Option.map_some]
  intro (other, value') hother
  obtain ⟨hvalue', hname'⟩ := mem_spellings.mp hother
  exact hgreatest other (by simp [hvalue']) hname'

-- ---------------------------------------------------------------------------
-- What a name is kept with
-- ---------------------------------------------------------------------------

theorem get?_collect_eq_none
    (h : ∀ key, scheme.nameOf? key = some name → metadata.annotation? key = none) :
    (scheme.collect metadata).get? name = none := by
  rw [← Option.not_isSome_iff_eq_none, isSome_get?_collect]
  rintro ⟨key, hkey, hname⟩
  simp [h key hname] at hkey

theorem get?_collect_of_only (hname : scheme.nameOf? key = some name)
    (honly : ∀ other, scheme.nameOf? other = some name →
      (metadata.annotation? other).isSome = true → other = key) :
    (scheme.collect metadata).get? name = metadata.annotation? key := by
  cases hvalue : metadata.annotation? key with
  | none =>
    refine get?_collect_eq_none fun other hother => ?_
    by_contra hcarried
    obtain rfl := honly other hother (Option.isSome_iff_ne_none.mpr hcarried)
    exact hcarried hvalue
  | some value =>
    refine get?_collect_of_greatest hvalue hname fun other hcarried hother => ?_
    obtain rfl := honly other hother hcarried
    simp

theorem get?_collect_qualified (h : name.qualifier ≠ "") :
    (scheme.collect metadata).get? name =
      if scheme.separator ∈ name.qualifier.toList then none
      else metadata.annotation? (scheme.trailingKey name.feature ++ name.qualifier) := by
  split
  · next hseparator =>
    refine get?_collect_eq_none fun key hname => ?_
    rcases nameOf?_eq_some_iff.mp hname with ⟨-, hempty, -⟩ | ⟨-, hfree⟩
    · exact absurd hempty h
    · exact absurd hseparator hfree
  · next hfree =>
    refine get?_collect_of_only (nameOf?_eq_some_iff.mpr (.inr ⟨rfl, hfree⟩)) ?_
    intro other hother _
    rcases nameOf?_eq_some_iff.mp hother with ⟨-, hempty, -⟩ | ⟨hkey, -⟩
    · exact absurd hempty h
    · exact hkey

theorem get?_collect_unqualified (feature : String) :
    (scheme.collect metadata).get? ⟨feature, ""⟩ =
      (metadata.annotation? (scheme.trailingKey feature)).or
        (if scheme.separator ∈ feature.toList then none
        else metadata.annotation? (scheme.plainKey feature)) := by
  have hspelled : ∀ {key}, scheme.nameOf? key = some ⟨feature, ""⟩ →
      key = scheme.plainKey feature ∧ scheme.separator ∉ feature.toList ∨
        key = scheme.trailingKey feature := by
    intro key hname
    rcases nameOf?_eq_some_iff.mp hname with ⟨hkey, -, hfree⟩ | ⟨hkey, -⟩
    · exact .inl ⟨hkey, hfree⟩
    · exact .inr (by simpa using hkey)
  have htrailing : scheme.nameOf? (scheme.trailingKey feature) = some ⟨feature, ""⟩ :=
    nameOf?_eq_some_iff.mpr (.inr (by simp))
  cases hvalue : metadata.annotation? (scheme.trailingKey feature) with
  | some value =>
    refine get?_collect_of_greatest hvalue htrailing fun other _ hother => ?_
    rcases hspelled hother with ⟨rfl, -⟩ | rfl
    · rw [Std.OrientedCmp.gt_of_lt (scheme.compare_plainKey_trailingKey feature)]
      simp
    · simp
  | none =>
    rw [Option.none_or]
    split
    · next hseparator =>
      refine get?_collect_eq_none fun key hname => ?_
      rcases hspelled hname with ⟨-, hfree⟩ | rfl
      · exact absurd hseparator hfree
      · exact hvalue
    · next hfree =>
      have hplain : scheme.nameOf? (scheme.plainKey feature) = some ⟨feature, ""⟩ :=
        nameOf?_eq_some_iff.mpr (.inl ⟨rfl, rfl, hfree⟩)
      refine get?_collect_of_only hplain fun other hother hcarried => ?_
      rcases hspelled hother with ⟨hkey, -⟩ | rfl
      · exact hkey
      · simp [hvalue] at hcarried

/-- What is collected, name by name. A name with a qualifier is kept exactly where the qualifier is
free of the separator, with what is under the key that joins the two; a feature without a qualifier
with what is under its key with a separator, or else under its plain key where that spells it. The
entries are these and no others, by feature and then by qualifier, and those of a feature are found
in the order of their qualifiers. -/
theorem collected_by_key (scheme : Scheme) (metadata : Metadata) :
    (∀ feature qualifier, (scheme.collect metadata).get? ⟨feature, qualifier⟩ =
      if qualifier = "" then
        (metadata.annotation? (scheme.stem ++ feature ++ String.singleton scheme.separator)).or
          (if scheme.separator ∈ feature.toList then none
          else metadata.annotation? (scheme.stem ++ feature))
      else if scheme.separator ∈ qualifier.toList then none
      else metadata.annotation?
        (scheme.stem ++ feature ++ String.singleton scheme.separator ++ qualifier)) ∧
    (∀ name value, (name, value) ∈ (scheme.collect metadata).toList ↔
      (scheme.collect metadata).get? name = some value) ∧
    ((scheme.collect metadata).toList.Pairwise fun a b => a.1.feature < b.1.feature ∨
      a.1.feature = b.1.feature ∧ a.1.qualifier < b.1.qualifier) ∧
    ∀ feature,
      (∀ name value, (name, value) ∈ (scheme.collect metadata).forFeature feature ↔
        name.feature = feature ∧ (scheme.collect metadata).get? name = some value) ∧
      ((scheme.collect metadata).forFeature feature).Pairwise
        fun a b => a.1.qualifier < b.1.qualifier := by
  have hsorted : (scheme.collect metadata).toList.Pairwise fun a b => a.1.feature < b.1.feature ∨
      a.1.feature = b.1.feature ∧ a.1.qualifier < b.1.qualifier :=
    (scheme.collect metadata).increasing.imp Name.compare_eq_lt_iff.mp
  refine ⟨fun feature qualifier => ?_, fun name value => SortedMap.mem_toList_iff, hsorted, ?_⟩
  · split
    · next hempty =>
      rw [hempty]
      exact get?_collect_unqualified feature
    · next hqualifier => exact get?_collect_qualified hqualifier
  · refine fun feature => ⟨fun name value => mem_forFeature, ?_⟩
    refine (hsorted.filter _).imp_of_mem fun {a b} ha hb hlt => ?_
    have hfeatures : a.1.feature = b.1.feature :=
      (mem_forFeature.mp ha).1.trans (mem_forFeature.mp hb).1.symm
    rcases hlt with hlt | ⟨-, hlt⟩
    · exact absurd (hfeatures ▸ hlt) (String.lt_irrefl _)
    · exact hlt

end Scheme

end Annotations

end OrdinalAdmission
