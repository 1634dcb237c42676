import OrdinalAdmission.Patch.Apply
import OrdinalAdmission.SortedMap

/-!
# Objects in key order

A JSON value is canonical when every object in it lists its members in strictly increasing order of
their keys. Members in that order are told apart by their look-ups (`ext_member?`), and putting and
dropping a member are the operations of a sorted map.
-/

namespace OrdinalAdmission.Json

-- ---------------------------------------------------------------------------
-- Members in order
-- ---------------------------------------------------------------------------

def Increasing (members : List (String × Json)) : Prop :=
  members.Pairwise fun a b => compare a.1 b.1 = .lt

inductive Canonical : Json → Prop where
  | scalar (value : Scalar) : Canonical (.scalar value)
  | list {items : List Json} : (∀ item ∈ items, Canonical item) → Canonical (.list items)
  | object {members : List (String × Json)} :
      Increasing members → (∀ member ∈ members, Canonical member.2) → Canonical (.object members)

section
variable {key k : String} {value : Json} {members : List (String × Json)}

theorem member?_eq_find (key : String) (members : List (String × Json)) :
    member? key members = SortedMap.find key members := by
  induction members with
  | nil => rfl
  | cons head rest ih =>
    have hk : compare key head.1 = .eq ↔ head.1 = key :=
      Std.LawfulEqCmp.compare_eq_iff_eq.trans eq_comm
    simp only [member?, SortedMap.find, ih, hk]

theorem member?_eq_some_iff (h : Increasing members) :
    member? key members = some value ↔ (key, value) ∈ members := by
  rw [member?_eq_find]
  exact SortedMap.find_eq_some_iff h

theorem member?_cons (key : String) (head : String × Json) (rest : List (String × Json)) :
    member? key (head :: rest) = if head.1 = key then some head.2 else member? key rest := rfl

theorem mem_of_member? (h : member? key members = some value) : (key, value) ∈ members := by
  induction members with
  | nil => cases h
  | cons head rest ih =>
    rw [member?_cons] at h
    split at h
    · next hk =>
      cases h
      exact hk ▸ List.mem_cons_self
    · exact List.mem_cons_of_mem _ (ih h)

theorem ext_member? {xs ys : List (String × Json)} (hx : Increasing xs) (hy : Increasing ys)
    (h : ∀ key, member? key xs = member? key ys) : xs = ys := by
  refine SortedMap.eq_of_mem_iff hx hy fun e => ?_
  obtain ⟨key, value⟩ := e
  rw [← member?_eq_some_iff hx, ← member?_eq_some_iff hy, h]

end

end OrdinalAdmission.Json

namespace OrdinalAdmission.Patch

open Json (member? Increasing ext_member?)

-- ---------------------------------------------------------------------------
-- Putting and dropping a member
-- ---------------------------------------------------------------------------

section
variable {key k : String} {value : Json} {members : List (String × Json)}

theorem setMember_eq_place (key : String) (value : Json) (members : List (String × Json)) :
    setMember key value members = SortedMap.place key value members := by
  induction members with
  | nil => rfl
  | cons head rest ih => cases h : compare key head.1 <;> simp [setMember, SortedMap.place, h, ih]

theorem member?_setMember (key k : String) (value : Json) (members : List (String × Json)) :
    member? k (setMember key value members) = if k = key then some value else member? k members := by
  rw [setMember_eq_place, Json.member?_eq_find, Json.member?_eq_find, SortedMap.find_place]

theorem increasing_setMember (key : String) (value : Json) (h : Increasing members) :
    Increasing (setMember key value members) := by
  rw [setMember_eq_place]
  exact SortedMap.pairwise_place h

theorem setMember_self (h : Increasing members) (hk : member? key members = some value) :
    setMember key value members = members := by
  refine ext_member? (increasing_setMember _ _ h) h fun k => ?_
  rw [member?_setMember]
  split
  · next he => rw [he, hk]
  · rfl

theorem setMember_setMember (h : Increasing members) (first second : Json) :
    setMember key second (setMember key first members) = setMember key second members := by
  refine ext_member? (increasing_setMember _ _ (increasing_setMember _ _ h))
    (increasing_setMember _ _ h) fun k => ?_
  simp only [member?_setMember]
  split <;> rfl

theorem member?_dropMember (key k : String) (members : List (String × Json)) :
    member? k (dropMember key members) = if k = key then none else member? k members := by
  have hfilter : dropMember key members = members.filter fun e => compare key e.1 != .eq := by
    refine List.filter_congr fun e _ => ?_
    have hk : compare key e.1 = .eq ↔ e.1 = key :=
      Std.LawfulEqCmp.compare_eq_iff_eq.trans eq_comm
    rw [Bool.eq_iff_iff, bne_iff_ne, bne_iff_ne, ne_eq, ne_eq, hk]
  rw [hfilter, Json.member?_eq_find, Json.member?_eq_find, SortedMap.find_filter]

theorem increasing_dropMember (h : Increasing members) : Increasing (dropMember key members) :=
  List.Pairwise.filter _ h

end

end OrdinalAdmission.Patch
