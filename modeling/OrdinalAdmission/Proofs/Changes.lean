import OrdinalAdmission.Proofs.Faithful
import OrdinalAdmission.Proofs.Frame
import OrdinalAdmission.Proofs.RoundTrip

/-!
# What stands in the patch between two records

A record is written field by field, so an operation of the patch between two records belongs to a
field that differs (`mem_diff_object`). In a list whose items stay at their positions an operation
belongs to an item that differs, or it adds one behind the items of old (`mem_diff_list`).
-/

namespace OrdinalAdmission.Patch

open Codec (KeysIncrease)
open Json (member?)

-- ---------------------------------------------------------------------------
-- Members
-- ---------------------------------------------------------------------------

def memberOperations (key : String) : Option Json → Option Json → List Operation
  | some old, some new => (diff [] old new).map (·.under key)
  | none, some new => [.add [key] new]
  | some _, none => [.remove [key]]
  | none, none => []

theorem memberOperations_self (key : String) {value : Option Json}
    (h : ∀ present, value = some present → present.Canonical) :
    memberOperations key value value = [] := by
  cases value with
  | none => rfl
  | some present => rw [memberOperations, diff_self (h present rfl) [], List.map_nil]

theorem mem_diffMembers {old new : List (String × Json)} {operation : Operation}
    (h : operation ∈ diffMembers [] old new) :
    ∃ member ∈ new,
      operation ∈ memberOperations member.1 (member? member.1 old) (some member.2) := by
  induction new with
  | nil => cases h
  | cons head rest ih =>
    rcases List.mem_append.mp h with h | h
    · refine ⟨head, List.mem_cons_self, ?_⟩
      cases hold : member? head.1 old with
      | none =>
        rw [hold] at h
        exact h
      | some value =>
        rw [hold] at h
        rw [memberOperations, ← diff_under]
        exact h
    · obtain ⟨member, hm, hoperation⟩ := ih h
      exact ⟨member, List.mem_cons_of_mem _ hm, hoperation⟩

theorem mem_removedMembers {old new : List (String × Json)} {operation : Operation}
    (h : operation ∈ removedMembers [] old new) :
    ∃ member ∈ old, member? member.1 new = none ∧ operation = .remove [member.1] := by
  obtain ⟨member, hm, rfl⟩ := List.mem_map.mp h
  obtain ⟨hold, hnone⟩ := List.mem_filter.mp hm
  exact ⟨member, hold, Option.isNone_iff_eq_none.mp hnone, rfl⟩

/-- An operation of the patch between two records is one for a field that is written differently. -/
theorem mem_diff_object {σ : Type} {blank : σ} {fields : List (Codec.Field σ)}
    (hkeys : KeysIncrease fields) (hcanonical : ∀ field ∈ fields, field.WritesCanonical) {a b : σ}
    {operation : Operation} (h : operation ∈
      diff [] ((Codec.object blank fields).encode a) ((Codec.object blank fields).encode b)) :
    ∃ field ∈ fields, field.encode a ≠ field.encode b ∧
      operation ∈ memberOperations field.key (field.encode a) (field.encode b) := by
  have hfield : ∃ field ∈ fields,
      operation ∈ memberOperations field.key (field.encode a) (field.encode b) := by
    rcases List.mem_append.mp h with h | h
    · obtain ⟨⟨key, value⟩, hm, hoperation⟩ := mem_diffMembers h
      obtain ⟨field, hf, rfl, hwritten⟩ := Codec.mem_written.mp hm
      have hold := Codec.member?_written hkeys hf a
      exact ⟨field, hf, by rw [hwritten, ← hold]; exact hoperation⟩
    · obtain ⟨⟨key, value⟩, hm, hnone, rfl⟩ := mem_removedMembers h
      obtain ⟨field, hf, rfl, hwritten⟩ := Codec.mem_written.mp hm
      have hgone : field.encode b = none := (Codec.member?_written hkeys hf b).symm.trans hnone
      refine ⟨field, hf, ?_⟩
      rw [hwritten, hgone]
      exact List.mem_singleton_self _
  obtain ⟨field, hf, hoperation⟩ := hfield
  refine ⟨field, hf, fun hsame => ?_, hoperation⟩
  rw [hsame, memberOperations_self field.key (hcanonical field hf b)] at hoperation
  cases hoperation

-- ---------------------------------------------------------------------------
-- Items
-- ---------------------------------------------------------------------------

theorem mem_diffItems {old new : List Json} (hlength : old.length ≤ new.length) {i : Nat}
    {operation : Operation} (h : operation ∈ diffItems [] i old new) :
    (∃ j item value, old[j]? = some item ∧ new[j]? = some value ∧
      ∃ inner ∈ diff [] item value, operation = inner.under (Pointer.position (i + j))) ∨
    ∃ j value, old.length ≤ j ∧ new[j]? = some value ∧
      operation = .add [Pointer.position (i + j)] value := by
  induction new generalizing old i with
  | nil =>
    obtain rfl := List.length_eq_zero_iff.mp (Nat.le_zero.mp hlength)
    cases h
  | cons value rest ih =>
    have hshift : ∀ j, i + 1 + j = i + (j + 1) := fun j => by omega
    cases old with
    | nil =>
      rcases List.mem_cons.mp h with rfl | h
      · exact .inr ⟨0, value, Nat.le_refl 0, rfl, rfl⟩
      · rcases ih (Nat.zero_le _) h with ⟨j, item, _, hitem, _⟩ | ⟨j, added, hj, hadded, rfl⟩
        · cases hitem
        · exact .inr ⟨j + 1, added, Nat.zero_le _, hadded, by rw [hshift]⟩
    | cons item items =>
      rcases List.mem_append.mp h with h | h
      · rw [List.nil_append, diff_under] at h
        obtain ⟨inner, hinner, rfl⟩ := List.mem_map.mp h
        exact .inl ⟨0, item, value, rfl, rfl, inner, hinner, rfl⟩
      · rcases ih (Nat.le_of_succ_le_succ hlength) h with
          ⟨j, other, left, hother, hleft, inner, hinner, rfl⟩ | ⟨j, added, hj, hadded, rfl⟩
        · exact .inl ⟨j + 1, other, left, hother, hleft, inner, hinner, by rw [hshift]⟩
        · exact .inr ⟨j + 1, added, Nat.succ_le_succ hj, hadded, by rw [hshift]⟩

theorem length_le_of_atPositions {α : Type} {R : α → α → Prop} {xs ys : List α}
    (h : AtPositions R xs ys) : xs.length ≤ ys.length := by
  refine Nat.le_of_not_lt fun hlt => ?_
  obtain ⟨y, hy, -⟩ := h ys.length xs[ys.length] (List.getElem?_eq_getElem hlt)
  simp at hy

theorem atPositions_of_isPrefix {α : Type} {xs ys : List α} (h : xs <+: ys) :
    AtPositions (fun x y => y = x) xs ys := by
  obtain ⟨more, rfl⟩ := h
  intro i x hx
  exact ⟨x, by rw [List.getElem?_append_left (List.getElem?_eq_some_iff.mp hx).1, hx], rfl⟩

section
variable {α : Type} {item : Codec α} {R : α → α → Prop}

/-- Where items stay at their positions, an operation is one for an item that differs or adds an
item behind all of them. -/
theorem mem_diff_list (hitem : item.Faithful) {old new : List α} (hstay : AtPositions R old new)
    {operation : Operation}
    (h : operation ∈ diff [] ((Codec.list item).encode old) ((Codec.list item).encode new)) :
    (∃ j x y, old[j]? = some x ∧ R x y ∧ x ≠ y ∧
      ∃ inner ∈ diff [] (item.encode x) (item.encode y),
        operation = inner.under (Pointer.position j)) ∨
    ∃ j value, old.length ≤ j ∧ j < new.length ∧
      operation = .add [Pointer.position j] value := by
  have hlength : (old.map item.encode).length ≤ (new.map item.encode).length := by
    simpa using length_le_of_atPositions hstay
  rcases mem_diffItems hlength h with
    ⟨j, _, _, hold, hnew, inner, hinner, rfl⟩ | ⟨j, value, hj, hnew, rfl⟩
  · obtain ⟨x, hx, rfl⟩ := by simpa using hold
    obtain ⟨z, hz, rfl⟩ := by simpa using hnew
    obtain ⟨y, hy, hr⟩ := hstay j x hx
    obtain rfl : y = z := Option.some.inj (hy.symm.trans hz)
    refine .inl ⟨j, x, y, hx, hr, ?_, inner, hinner, by rw [Nat.zero_add]⟩
    rintro rfl
    rw [diff_self (hitem.canonical x)] at hinner
    cases hinner
  · have hlt := (List.getElem?_eq_some_iff.mp hnew).1
    exact .inr ⟨j, value, by simpa using hj, by simpa using hlt, by rw [Nat.zero_add]⟩

inductive Extends (key : String) (old : Option (List α)) : Operation → Prop where
  | list (value : Json) : old = none → Extends key old (.add [key] value)
  | item {items : List α} {j : Nat} (value : Json) : old = some items → items.length ≤ j →
      Extends key old (.add [key, Pointer.position j] value)

theorem mem_memberOperations_list (hitem : item.Faithful) {key : String} {old new : Option (List α)}
    (hstays : Stays (AtPositions R) old new) {operation : Operation}
    (h : operation ∈ memberOperations key (old.map (Codec.list item).encode)
      (new.map (Codec.list item).encode)) :
    Extends key old operation ∨ ∃ items j x y, old = some items ∧ items[j]? = some x ∧ R x y ∧
      x ≠ y ∧ ∃ inner ∈ diff [] (item.encode x) (item.encode y),
        operation = (inner.under (Pointer.position j)).under key := by
  cases old with
  | none =>
    cases new with
    | none => cases h
    | some added =>
      rw [List.mem_singleton.mp h]
      exact .inl (.list _ rfl)
  | some items =>
    obtain ⟨after, rfl, hstay⟩ := hstays items rfl
    obtain ⟨outer, houter, rfl⟩ := List.mem_map.mp h
    rcases mem_diff_list hitem hstay houter with
      ⟨j, x, y, hx, hr, hne, inner, hinner, rfl⟩ | ⟨j, value, hj, -, rfl⟩
    · exact .inr ⟨items, j, x, y, rfl, hx, hr, hne, inner, hinner, rfl⟩
    · exact .inl (.item value rfl hj)

end

end OrdinalAdmission.Patch
