import Mathlib.Data.List.Perm.Subperm
import OrdinalAdmission.Annotations.Scheme

/-!
# The keys that spell a name

A key spells a name with or without a separator (`nameOf?_eq_some_iff`). A separator settles where
the feature ends, and so does its absence, so a key is given by the name and by whether it has one.
Only names without a qualifier can be spelled in both ways: by the plain key of the feature and by
the same key with a separator at the end (`keys_of_one_name`). The key made for the name that a key
spells is therefore that key again, or that key without the separator at its end.
-/

namespace OrdinalAdmission.Annotations.Scheme

theorem afterStem?_eq_some_iff {stem key rest : List Char} :
    afterStem? stem key = some rest ↔ key = stem ++ rest := by
  induction stem generalizing key with
  | nil => simp [afterStem?]
  | cons s stem ih =>
    cases key with
    | nil => simp [afterStem?]
    | cons k key =>
      rw [afterStem?]
      split
      · next heq => simp [ih, heq]
      · next hne => simp [Ne.symm hne]

section
variable {scheme : Scheme} {key : String} {name : Name}

def plainKey (scheme : Scheme) (feature : String) : String :=
  scheme.stem ++ feature

def trailingKey (scheme : Scheme) (feature : String) : String :=
  scheme.stem ++ feature ++ String.singleton scheme.separator

theorem compare_plainKey_trailingKey (feature : String) :
    compare (scheme.plainKey feature) (scheme.trailingKey feature) = .lt := by
  have hlonger : (scheme.plainKey feature).toList ++ [] <
      (scheme.plainKey feature).toList ++ [scheme.separator] :=
    List.append_left_lt (List.nil_lt_cons _ _)
  have hlt : scheme.plainKey feature < scheme.trailingKey feature := by
    rw [String.lt_iff, trailingKey, ← plainKey, String.toList_append, String.toList_singleton]
    rwa [List.append_nil] at hlonger
  exact compareOfLessAndEq_eq_lt.mpr hlt

/-- A name is spelled by its feature alone, if it has no qualifier and its feature no separator, or
by its feature, a separator and its qualifier, if there is no separator in that. -/
theorem nameOf?_eq_some_iff :
    scheme.nameOf? key = some name ↔
      (key = scheme.plainKey name.feature ∧ name.qualifier = "" ∧
        scheme.separator ∉ name.feature.toList) ∨
      (key = scheme.trailingKey name.feature ++ name.qualifier ∧
        scheme.separator ∉ name.qualifier.toList) := by
  have hplain : key = scheme.plainKey name.feature ↔
      key.toList = scheme.stem.toList ++ name.feature.toList := by
    rw [← String.toList_inj, plainKey, String.toList_append]
  have htrailing : key = scheme.trailingKey name.feature ++ name.qualifier ↔
      key.toList = scheme.stem.toList ++
        (name.feature.toList ++ scheme.separator :: name.qualifier.toList) := by
    rw [← String.toList_inj, trailingKey]
    simp
  rw [hplain, htrailing, nameOf?, Option.map_eq_some_iff]
  constructor
  · rintro ⟨rest, hrest, hname⟩
    rw [afterStem?_eq_some_iff] at hrest
    split at hname
    · next feature qualifier hcut =>
      obtain ⟨rfl, hfree⟩ := Text.cutLast?_eq_some_iff.mp hcut
      obtain rfl := hname
      exact .inr ⟨by simpa using hrest, by simpa using hfree⟩
    · next hcut =>
      obtain rfl := hname
      exact .inl ⟨by simpa using hrest, rfl, by simpa using Text.cutLast?_eq_none_iff.mp hcut⟩
  · rintro (⟨hkey, hqualifier, hfree⟩ | ⟨hkey, hfree⟩)
    · refine ⟨name.feature.toList, afterStem?_eq_some_iff.mpr hkey, ?_⟩
      rw [Text.cutLast?_eq_none_iff.mpr hfree]
      simp [← hqualifier]
    · refine ⟨_, afterStem?_eq_some_iff.mpr hkey, ?_⟩
      rw [Text.cutLast?_eq_some_iff.mpr ⟨rfl, hfree⟩]
      simp

theorem nameOf?_eq_none_iff :
    scheme.nameOf? key = none ↔ ¬ ∃ rest, key = scheme.stem ++ rest := by
  rw [nameOf?, Option.map_eq_none_iff, Option.eq_none_iff_forall_ne_some]
  simp only [ne_eq, afterStem?_eq_some_iff, ← not_exists]
  refine not_congr ⟨?_, ?_⟩
  · rintro ⟨rest, hrest⟩
    exact ⟨String.ofList rest, by simp [← String.toList_inj, hrest]⟩
  · rintro ⟨rest, rfl⟩
    exact ⟨rest.toList, by simp⟩

theorem keyOf_eq_plainKey (h : name.qualifier = "") :
    scheme.keyOf name = scheme.plainKey name.feature := by
  simp [keyOf, plainKey, h]

theorem keyOf_eq_trailingKey (h : name.qualifier ≠ "") :
    scheme.keyOf name = scheme.trailingKey name.feature ++ name.qualifier := by
  simp [keyOf, trailingKey, h]

theorem nameOf?_keyOf_iff :
    scheme.nameOf? (scheme.keyOf name) = some name ↔
      if name.qualifier = "" then scheme.separator ∉ name.feature.toList
      else scheme.separator ∉ name.qualifier.toList := by
  rw [nameOf?_eq_some_iff]
  by_cases hempty : name.qualifier = ""
  · have hne : scheme.plainKey name.feature ≠ scheme.trailingKey name.feature := by
      intro h
      have hlength := congrArg String.length h
      simp [trailingKey, plainKey] at hlength
    simp [keyOf_eq_plainKey, hempty, hne]
  · simp [keyOf_eq_trailingKey, hempty]

theorem keyOf_of_nameOf? {rest : String} (h : scheme.nameOf? (scheme.stem ++ rest) = some name) :
    if rest.toList.getLast? = some scheme.separator then
      scheme.keyOf name ++ String.singleton scheme.separator = scheme.stem ++ rest
    else scheme.keyOf name = scheme.stem ++ rest := by
  rcases nameOf?_eq_some_iff.mp h with ⟨hkey, hempty, hfree⟩ | ⟨hkey, hfree⟩
  · have hrest : rest = name.feature := by
      simpa [plainKey, ← String.toList_inj] using hkey
    have hlast : rest.toList.getLast? ≠ some scheme.separator := by
      rw [hrest]
      exact fun hlast => hfree (List.mem_of_getLast? hlast)
    rw [if_neg hlast, hkey, keyOf_eq_plainKey hempty]
  · have hrest : rest.toList =
        name.feature.toList ++ scheme.separator :: name.qualifier.toList := by
      simpa [trailingKey, ← String.toList_inj] using hkey
    by_cases hempty : name.qualifier = ""
    · have hlast : rest.toList.getLast? = some scheme.separator := by
        simp [hrest, hempty]
      rw [if_pos hlast, hkey, keyOf_eq_plainKey hempty, hempty, String.append_empty]
      rfl
    · have hlast : rest.toList.getLast? ≠ some scheme.separator := by
        intro hlast
        have hqualifier : name.qualifier.toList ≠ [] := by simpa using hempty
        rw [hrest, List.getLast?_append_cons, List.getLast?_cons_of_ne_nil hqualifier] at hlast
        exact hfree (List.mem_of_getLast? hlast)
      rw [if_neg hlast, hkey, keyOf_eq_trailingKey hempty]

/-- Two keys that spell one name spell it without a qualifier, and one of them ends with a
separator. -/
theorem keys_of_one_name {one other : String} (hone : scheme.nameOf? one = some name)
    (hother : scheme.nameOf? other = some name) (hne : one ≠ other) :
    name.qualifier = "" ∧
      (one = scheme.plainKey name.feature ∧ other = scheme.trailingKey name.feature ∨
        one = scheme.trailingKey name.feature ∧ other = scheme.plainKey name.feature) := by
  rcases nameOf?_eq_some_iff.mp hone with ⟨hone, hempty, -⟩ | ⟨hone, -⟩ <;>
    rcases nameOf?_eq_some_iff.mp hother with ⟨hother, hempty', -⟩ | ⟨hother, -⟩
  · exact absurd (hone.trans hother.symm) hne
  · exact ⟨hempty, .inl ⟨hone, by simpa [hempty] using hother⟩⟩
  · exact ⟨hempty', .inr ⟨by simpa [hempty'] using hone, hother⟩⟩
  · exact absurd (hone.trans hother.symm) hne

theorem qualifier_of_unqualified (hname : scheme.nameOf? key = some name)
    (hkey : key = scheme.plainKey name.feature ∨ key = scheme.trailingKey name.feature) :
    name.qualifier = "" := by
  rcases nameOf?_eq_some_iff.mp hname with ⟨-, hempty, -⟩ | ⟨hspelled, -⟩
  · exact hempty
  · have hlength := congrArg String.length hspelled
    rcases hkey with rfl | rfl
    · simp only [plainKey, trailingKey, String.length_append, String.length_singleton] at hlength
      omega
    · simpa using hlength

theorem length_le_two_of_one_name {keys : List String} (hnodup : keys.Nodup)
    (h : ∀ key ∈ keys, scheme.nameOf? key = some name) : keys.length ≤ 2 := by
  have hsubset : keys ⊆
      [scheme.plainKey name.feature, scheme.trailingKey name.feature ++ name.qualifier] := by
    intro key hkey
    rcases nameOf?_eq_some_iff.mp (h key hkey) with ⟨rfl, -, -⟩ | ⟨rfl, -⟩
    · exact List.mem_cons_self
    · exact List.mem_cons_of_mem _ (List.mem_singleton_self _)
  exact (List.subperm_of_subset hnodup hsubset).length_le

end

/-- Keys and the names they spell. The key made for a name spells it again exactly when there is no
separator where the last one counts. Every key that starts with the stem spells a name, and no other
key does; the key made for this name is the same key, less a separator at its end. At most two keys
spell one name. -/
theorem keys_of_names (scheme : Scheme) :
    (∀ name, scheme.nameOf? (scheme.keyOf name) = some name ↔
      (name.qualifier ≠ "" ∧ scheme.separator ∉ name.qualifier.toList) ∨
        (name.qualifier = "" ∧ scheme.separator ∉ name.feature.toList)) ∧
    (∀ key, scheme.nameOf? key = none ↔ ¬ ∃ rest, key = scheme.stem ++ rest) ∧
    (∀ rest, ∃ name, scheme.nameOf? (scheme.stem ++ rest) = some name ∧
      if rest.toList.getLast? = some scheme.separator then
        scheme.keyOf name ++ String.singleton scheme.separator = scheme.stem ++ rest
      else scheme.keyOf name = scheme.stem ++ rest) ∧
    ∀ name (keys : List String), keys.Nodup →
      (∀ key ∈ keys, scheme.nameOf? key = some name) → keys.length ≤ 2 := by
  refine ⟨fun name => ?_, fun key => nameOf?_eq_none_iff, fun rest => ?_, ?_⟩
  · rw [nameOf?_keyOf_iff]
    by_cases hempty : name.qualifier = "" <;> simp [hempty]
  · cases hname : scheme.nameOf? (scheme.stem ++ rest) with
    | none => exact absurd ⟨rest, rfl⟩ (nameOf?_eq_none_iff.mp hname)
    | some name => exact ⟨name, rfl, keyOf_of_nameOf? hname⟩
  · exact fun name keys => length_le_two_of_one_name

theorem keys_of_names_arrow :
    let scheme : Scheme := ⟨"a→b/", '→'⟩
    let keys := ["a→b/c→", "a→b/c"]
    scheme.nameOf? (scheme.keyOf ⟨"c→d", "1-"⟩) = some ⟨"c→d", "1-"⟩ ∧
    scheme.nameOf? (scheme.keyOf ⟨"c→d", ""⟩) ≠ some ⟨"c→d", ""⟩ ∧
    (∃ name, scheme.nameOf? "a→b/c→d→" = some name ∧ scheme.keyOf name ++ "→" = "a→b/c→d→") ∧
    keys.Nodup ∧ (∀ key ∈ keys, scheme.nameOf? key = some ⟨"c", ""⟩) ∧ keys.length ≤ 2 := by
  intro scheme keys
  have hnodup : keys.Nodup := by decide
  have hkeys : ∀ key ∈ keys, scheme.nameOf? key = some ⟨"c", ""⟩ := by decide +kernel
  obtain ⟨hspelled, -, hkept, hfew⟩ := keys_of_names scheme
  exact ⟨(hspelled _).mpr (by decide), fun h => absurd ((hspelled _).mp h) (by decide),
    hkept "c→d→", hnodup, hkeys, hfew _ keys hnodup hkeys⟩

end OrdinalAdmission.Annotations.Scheme
