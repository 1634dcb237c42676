import Mathlib.Data.List.Induction
import OrdinalAdmission.Annotations.Scheme

/-!
# What is collected of the annotations

A name gets the value of the last key that spells it (`get?_collectFrom`). The entries collected for
a feature are therefore a matter of the annotations whose keys spell names of that feature; no other
annotation can shadow, reorder or repeat them.
-/

namespace OrdinalAdmission

def Kube.Metadata.annotation? (metadata : Kube.Metadata) (key : String) : Option String :=
  metadata.annotations.bind (·.get? key)

theorem Kube.Metadata.annotation?_eq (metadata : Kube.Metadata) (key : String) :
    metadata.annotation? key = (metadata.annotations.getD ∅).get? key := by
  unfold annotation?
  cases metadata.annotations with
  | none => rfl
  | some annotations => rfl

namespace Annotations.Scheme

variable (scheme : Scheme)

def spellings (name : Name) (annotations : List (String × String)) : List (String × String) :=
  annotations.filter fun entry => scheme.nameOf? entry.1 = some name

theorem get?_collectFrom (name : Name) (annotations : List (String × String)) :
    (scheme.collectFrom annotations).get? name =
      (scheme.spellings name annotations).getLast?.map (·.2) := by
  induction annotations using List.reverseRecOn with
  | nil => rfl
  | append_singleton earlier last ih =>
    have hspellings : scheme.spellings name (earlier ++ [last]) =
        scheme.spellings name earlier ++ scheme.spellings name [last] :=
      List.filter_append earlier [last]
    rw [hspellings]
    cases hname : scheme.nameOf? last.1 with
    | none =>
      have hlast : scheme.collectFrom (earlier ++ [last]) = scheme.collectFrom earlier := by
        simp [collectFrom, hname]
      simpa [hlast, spellings, hname] using ih
    | some spelled =>
      have hlast : scheme.collectFrom (earlier ++ [last]) =
          (scheme.collectFrom earlier).insert spelled last.2 := by
        simp [collectFrom, hname]
      rw [hlast, SortedMap.get?_insert]
      by_cases hsame : name = spelled
      · simp [spellings, hname, hsame]
      · simpa [spellings, hname, hsame, Ne.symm hsame] using ih

theorem collect_eq (metadata : Kube.Metadata) :
    scheme.collect metadata = scheme.collectFrom (metadata.annotations.getD ∅).toList := by
  unfold collect
  cases metadata.annotations with
  | none => rfl
  | some annotations => rfl

theorem forFeature_collect_congr {one other : Kube.Metadata} {feature : String}
    (h : ∀ key name, scheme.nameOf? key = some name → name.feature = feature →
      one.annotation? key = other.annotation? key) :
    (scheme.collect one).forFeature feature = (scheme.collect other).forFeature feature := by
  refine SortedMap.filter_toList_congr (p := fun name : Name => name.feature == feature) ?_
  intro name hname
  simp only [collect_eq, get?_collectFrom]
  congr 2
  refine SortedMap.filter_toList_congr (p := fun key => scheme.nameOf? key = some name) ?_
  intro key hkey
  rw [← Kube.Metadata.annotation?_eq, ← Kube.Metadata.annotation?_eq]
  exact h key name (of_decide_eq_true hkey) (by simpa using hname)

end Annotations.Scheme

end OrdinalAdmission
