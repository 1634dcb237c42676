import OrdinalAdmission.SortedMap

/-!
# Qualified annotation names

An annotation of interest names a feature and, by its qualifier, the ordinals it is meant for.
Names are ordered by feature and then by qualifier.
-/

namespace OrdinalAdmission.Annotations

structure Name where
  feature : String
  qualifier : String
  deriving DecidableEq, Repr, Inhabited

namespace Name

def render (name : Name) : String :=
  if name.qualifier.isEmpty then name.feature
  else name.feature ++ "[" ++ name.qualifier ++ "]"

instance : Ord Name where
  compare := compareLex (compareOn (·.feature)) (compareOn (·.qualifier))

instance : Std.TransOrd Name :=
  inferInstanceAs (Std.TransCmp (compareLex (compareOn Name.feature) (compareOn Name.qualifier)))

instance : Std.LawfulEqOrd Name where
  eq_of_compare {a b} h := by
    have h : (compare a.feature b.feature).then (compare a.qualifier b.qualifier) = .eq := h
    rw [Ordering.then_eq_eq] at h
    cases a; cases b
    simp only [Std.LawfulEqCmp.compare_eq_iff_eq] at h
    simp [h.1, h.2]

end Name

abbrev Collection := SortedMap Name String

/-- The entries of one feature, in the order of their qualifiers. -/
def Collection.forFeature (annotations : Collection) (feature : String) : List (Name × String) :=
  annotations.toList.filter (·.1.feature == feature)

end OrdinalAdmission.Annotations
