import OrdinalAdmission.Patch.Diff
import OrdinalAdmission.Proofs.Canonical

/-!
# A patch leads from the old document to the new one

`apply_diff`: carrying out the patch between two canonical documents on the old one succeeds and
leaves the new one. The operations for a member or an item are those of its own patch, moved below
one more step (`diff_under`), so each level needs to know only what its children's patches do to the
children. `diff_eq_nil_iff` says that there is nothing to carry out only between equal documents.
-/

namespace OrdinalAdmission.Patch

open Json (member? Increasing Canonical)

-- ---------------------------------------------------------------------------
-- One step into a document
-- ---------------------------------------------------------------------------

def child? (step : String) : Json → Option Json
  | .object members => member? step members
  | .list items => do items[← Pointer.position? step]?
  | .scalar _ => none

def withChild (step : String) (value : Json) : Json → Json
  | .object members => .object (setMember step value members)
  | .list items => .list ((Pointer.position? step).elim items fun i => items.set i value)
  | .scalar scalar => .scalar scalar

def Ordered : Json → Prop
  | .object members => Increasing members
  | _ => True

section
variable {step : String} {value : Json} {document : Json}

theorem child?_list {items : List Json} {i : Nat} :
    child? (Pointer.position i) (.list items) = items[i]? := by
  simp [child?, Pointer.position?_position]

theorem withChild_list {items : List Json} {i : Nat} :
    withChild (Pointer.position i) value (.list items) = .list (items.set i value) := by
  simp [withChild, Pointer.position?_position]

theorem ordered_withChild (step : String) (value : Json) (h : Ordered document) :
    Ordered (withChild step value document) := by
  cases document with
  | scalar scalar => trivial
  | list items => trivial
  | object members => exact increasing_setMember step value h

theorem child?_withChild {left : Json} (h : child? step document = some value) :
    child? step (withChild step left document) = some left := by
  cases document with
  | scalar scalar => cases h
  | object members => simp [child?, withChild, member?_setMember]
  | list items =>
    obtain ⟨i, hi, hv⟩ := Option.bind_eq_some_iff.mp h
    have hlt : i < items.length := (List.getElem?_eq_some_iff.mp hv).1
    simp [child?, withChild, hi, hlt]

theorem withChild_self (hd : Ordered document) (h : child? step document = some value) :
    withChild step value document = document := by
  cases document with
  | scalar scalar => rfl
  | object members => exact congrArg Json.object (setMember_self hd h)
  | list items =>
    obtain ⟨i, hi, hv⟩ := Option.bind_eq_some_iff.mp h
    obtain ⟨hlt, rfl⟩ := List.getElem?_eq_some_iff.mp hv
    simp [withChild, hi]

theorem withChild_withChild (hd : Ordered document) (first second : Json) :
    withChild step second (withChild step first document) = withChild step second document := by
  cases document with
  | scalar scalar => rfl
  | object members => exact congrArg Json.object (setMember_setMember hd first second)
  | list items => cases h : Pointer.position? step <;> simp [withChild, h]

theorem atPath_cons {edit : Json → Option Json} {path : Pointer}
    (h : child? step document = some value) :
    atPath edit (step :: path) document =
      (atPath edit path value).map fun left => withChild step left document := by
  cases document with
  | scalar scalar => cases h
  | object members =>
    have hm : member? step members = some value := h
    simp only [atPath, hm, Option.bind_eq_bind, Option.bind_some]
    cases atPath edit path value <;> rfl
  | list items =>
    obtain ⟨i, hi, hv⟩ := Option.bind_eq_some_iff.mp h
    simp only [atPath, hi, hv, Option.bind_eq_bind, Option.bind_some, withChild, Option.elim_some]
    cases atPath edit path value <;> rfl

end

-- ---------------------------------------------------------------------------
-- Operations below a step
-- ---------------------------------------------------------------------------

namespace Operation

/-- The operation with its path begun by one more step. -/
def under (step : String) : Operation → Operation
  | add path value => .add (step :: path) value
  | remove path => .remove (step :: path)
  | replace path value => .replace (step :: path) value

/-- The operation does not add or remove the document as a whole. -/
def IsInner : Operation → Prop
  | add path _ | remove path => path ≠ []
  | replace _ _ => True

section
variable {step : String} {path : Pointer} {value : Json}

@[simp] theorem under_add : (add path value).under step = add (step :: path) value := rfl

@[simp] theorem under_remove : (remove path).under step = remove (step :: path) := rfl

@[simp] theorem isInner_add : (add path value).IsInner ↔ path ≠ [] := .rfl

@[simp] theorem isInner_remove : (remove path).IsInner ↔ path ≠ [] := .rfl

@[simp] theorem isInner_replace : (replace path value).IsInner := trivial

end

/-- An operation moved below a step does to the document what it does to the value there. -/
theorem apply_under {operation : Operation} {step : String} {value document : Json}
    (hi : operation.IsInner) (h : child? step document = some value) :
    (operation.under step).apply document =
      (operation.apply value).map fun left => withChild step left document := by
  cases operation with
  | replace path new => exact atPath_cons h
  | add path new =>
    obtain ⟨first, rest, rfl⟩ := List.exists_cons_of_ne_nil hi
    simp only [under, apply, List.getLast?_cons_cons, List.dropLast_cons_cons]
    rw [List.getLast?_cons]
    exact atPath_cons h
  | remove path =>
    obtain ⟨first, rest, rfl⟩ := List.exists_cons_of_ne_nil hi
    simp only [under, apply, List.getLast?_cons_cons, List.dropLast_cons_cons]
    rw [List.getLast?_cons]
    exact atPath_cons h

end Operation

theorem apply_cons (operation : Operation) (rest : List Operation) (document : Json) :
    apply (operation :: rest) document = (operation.apply document).bind (apply rest) := rfl

theorem apply_append (first second : List Operation) (document : Json) :
    apply (first ++ second) document = (apply first document).bind (apply second) := by
  simp only [apply, List.foldlM_append]
  rfl

theorem apply_map_under {patch : List Operation} {step : String} {value document : Json}
    (hi : ∀ operation ∈ patch, operation.IsInner) (hd : Ordered document)
    (h : child? step document = some value) :
    apply (patch.map (·.under step)) document =
      (apply patch value).map fun left => withChild step left document := by
  induction patch generalizing value document with
  | nil => exact congrArg some (withChild_self hd h).symm
  | cons operation rest ih =>
    have hhead := Operation.apply_under (hi operation List.mem_cons_self) h
    rw [List.map_cons, apply_cons, apply_cons, hhead]
    cases operation.apply value with
    | none => rfl
    | some left =>
      have hrest := ih (fun o ho => hi o (List.mem_cons_of_mem _ ho))
        (ordered_withChild step left hd) (child?_withChild h)
      simp only [Option.map_some, Option.bind_some, hrest, withChild_withChild hd]

-- ---------------------------------------------------------------------------
-- Differences below a step
-- ---------------------------------------------------------------------------

theorem removedMembers_under (step : String) (path : Pointer) (old new : List (String × Json)) :
    removedMembers (step :: path) old new =
      (removedMembers path old new).map (·.under step) := by
  simp [removedMembers, Function.comp_def]

mutual

theorem diff_under (step : String) (path : Pointer) (old : Json) : (new : Json) →
    diff (step :: path) old new = (diff path old new).map (·.under step)
  | .scalar new => by
    cases old with
    | scalar value =>
      simp only [diff]
      split <;> rfl
    | list items => rfl
    | object members => rfl
  | .list new => by
    cases old with
    | scalar value => rfl
    | list items => exact diffItems_under step path 0 items new
    | object members => rfl
  | .object new => by
    cases old with
    | scalar value => rfl
    | list items => rfl
    | object members =>
      simp only [diff, List.map_append]
      rw [diffMembers_under step path members new, removedMembers_under]

theorem diffItems_under (step : String) (path : Pointer) (i : Nat) (old : List Json) :
    (new : List Json) →
    diffItems (step :: path) i old new = (diffItems path i old new).map (·.under step)
  | [] => by simp [diffItems]
  | new :: rest => by
    cases old with
    | nil =>
      simp only [diffItems, List.map_cons, Operation.under_add, List.cons_append]
      rw [diffItems_under step path (i + 1) [] rest]
    | cons item items =>
      simp only [diffItems, List.map_append, List.cons_append]
      rw [diff_under step (path ++ [Pointer.position i]) item new,
        diffItems_under step path (i + 1) items rest]

theorem diffMembers_under (step : String) (path : Pointer) (old : List (String × Json)) :
    (new : List (String × Json)) →
    diffMembers (step :: path) old new = (diffMembers path old new).map (·.under step)
  | [] => rfl
  | (key, new) :: rest => by
    simp only [diffMembers, List.map_append]
    rw [diffMembers_under step path old rest]
    cases member? key old with
    | none => rfl
    | some value => rw [← diff_under step (path ++ [key]) value new, List.cons_append]

end

theorem removedMembers_inner (path : Pointer) (old new : List (String × Json)) :
    ∀ operation ∈ removedMembers path old new, operation.IsInner := by
  intro operation h
  obtain ⟨member, -, rfl⟩ := List.mem_map.mp h
  simp

mutual

theorem diff_inner (path : Pointer) (old : Json) : (new : Json) →
    ∀ operation ∈ diff path old new, operation.IsInner
  | .scalar new => by
    cases old with
    | scalar value =>
      simp only [diff]
      split <;> simp
    | list items => simp [diff]
    | object members => simp [diff]
  | .list new => by
    cases old with
    | scalar value => simp [diff]
    | list items => exact diffItems_inner path 0 items new
    | object members => simp [diff]
  | .object new => by
    cases old with
    | scalar value => simp [diff]
    | list items => simp [diff]
    | object members =>
      intro operation h
      rcases List.mem_append.mp h with h | h
      · exact diffMembers_inner path members new operation h
      · exact removedMembers_inner path members new operation h

theorem diffItems_inner (path : Pointer) (i : Nat) (old : List Json) : (new : List Json) →
    ∀ operation ∈ diffItems path i old new, operation.IsInner
  | [] => by simp [diffItems]
  | new :: rest => by
    intro operation h
    cases old with
    | nil =>
      rcases List.mem_cons.mp h with rfl | h
      · simp
      · exact diffItems_inner path (i + 1) [] rest operation h
    | cons item items =>
      rcases List.mem_append.mp h with h | h
      · exact diff_inner (path ++ [Pointer.position i]) item new operation h
      · exact diffItems_inner path (i + 1) items rest operation h

theorem diffMembers_inner (path : Pointer) (old : List (String × Json)) :
    (new : List (String × Json)) →
    ∀ operation ∈ diffMembers path old new, operation.IsInner
  | [] => by simp [diffMembers]
  | (key, new) :: rest => by
    intro operation h
    rcases List.mem_append.mp h with h | h
    · split at h
      · next value hm => exact diff_inner (path ++ [key]) value new operation h
      · rw [List.mem_singleton.mp h]
        simp
    · exact diffMembers_inner path old rest operation h

end

theorem apply_diff_step {step : String} {value new document : Json} (hd : Ordered document)
    (h : child? step document = some value) (hp : apply (diff [] value new) value = some new) :
    apply (diff [step] value new) document = some (withChild step new document) := by
  rw [diff_under, apply_map_under (diff_inner [] value new) hd h, hp]
  rfl

-- ---------------------------------------------------------------------------
-- Lists
-- ---------------------------------------------------------------------------

theorem apply_remove_item (front : List Json) (item : Json) (back : List Json) :
    (Operation.remove [Pointer.position front.length]).apply (.list (front ++ item :: back)) =
      some (.list (front ++ back)) := by
  simp [Operation.apply, atPath, removeAt, Pointer.position?_position, List.eraseIdx_append_of_length_le]

theorem apply_add_item (items : List Json) (item : Json) :
    (Operation.add [Pointer.position items.length] item).apply (.list items) =
      some (.list (items ++ [item])) := by
  have hne : Pointer.position items.length ≠ "-" := by
    intro h
    have := Pointer.position?_position items.length
    rw [h] at this
    cases this
  simp [Operation.apply, atPath, addAt, Pointer.position?_position, hne]

/-- Behind a front that is settled, the old items become the new ones. -/
theorem apply_diffItems {new : List Json}
    (hp : ∀ value ∈ new, ∀ item : Json, item.Canonical →
      apply (diff [] item value) item = some value)
    (front : List Json) {old : List Json} (ho : ∀ item ∈ old, item.Canonical) :
    apply (diffItems [] front.length old new) (.list (front ++ old)) =
      some (.list (front ++ new)) := by
  induction new generalizing front old with
  | nil =>
    induction old with
    | nil => rfl
    | cons item items ih =>
      have hrest := ih fun i hi => ho i (List.mem_cons_of_mem _ hi)
      simp only [diffItems, List.map_cons, List.nil_append] at hrest ⊢
      rw [apply_cons, apply_remove_item, Option.bind_some, hrest]
  | cons value rest ih =>
    have hrest : ∀ items : List Json, (∀ item ∈ items, item.Canonical) →
        apply (diffItems [] (front.length + 1) items rest) (.list (front ++ value :: items)) =
          some (.list (front ++ value :: rest)) := by
      intro items hi
      have := ih (fun v hv => hp v (List.mem_cons_of_mem _ hv)) (front ++ [value]) hi
      simpa using this
    cases old with
    | nil =>
      simp only [diffItems, List.nil_append, List.append_nil]
      rw [apply_cons, apply_add_item, Option.bind_some]
      exact hrest [] (by simp)
    | cons item items =>
      have hchild : child? (Pointer.position front.length) (.list (front ++ item :: items)) =
          some item := by
        rw [child?_list]
        simp
      have hordered : Ordered (.list (front ++ item :: items)) := trivial
      have hitem := hp value List.mem_cons_self item (ho item List.mem_cons_self)
      simp only [diffItems, List.nil_append]
      rw [apply_append, apply_diff_step hordered hchild hitem, withChild_list, Option.bind_some]
      simpa using hrest items fun i hi => ho i (List.mem_cons_of_mem _ hi)

-- ---------------------------------------------------------------------------
-- Objects
-- ---------------------------------------------------------------------------

def setMembers (new members : List (String × Json)) : List (String × Json) :=
  new.foldl (fun members member => setMember member.1 member.2 members) members

def dropMembers (keys : List String) (members : List (String × Json)) : List (String × Json) :=
  keys.foldl (fun members key => dropMember key members) members

theorem increasing_setMembers {new members : List (String × Json)} (h : Increasing members) :
    Increasing (setMembers new members) := by
  induction new generalizing members with
  | nil => exact h
  | cons member rest ih => exact ih (increasing_setMember _ _ h)

theorem increasing_dropMembers {keys : List String} {members : List (String × Json)}
    (h : Increasing members) : Increasing (dropMembers keys members) := by
  induction keys generalizing members with
  | nil => exact h
  | cons key rest ih => exact ih (increasing_dropMember h)

theorem ne_key_of_increasing {head : String × Json} {rest : List (String × Json)}
    (h : Increasing (head :: rest)) {member : String × Json} (hm : member ∈ rest) :
    member.1 ≠ head.1 := by
  intro he
  have hlt : compare head.1 member.1 = .lt := (List.pairwise_cons.mp h).1 member hm
  simp [he] at hlt

theorem member?_setMembers {new : List (String × Json)} (h : Increasing new)
    (members : List (String × Json)) (key : String) :
    member? key (setMembers new members) = (member? key new).or (member? key members) := by
  induction new generalizing members with
  | nil => rfl
  | cons head rest ih =>
    have hrest := ih (List.pairwise_cons.mp h).2 (setMember head.1 head.2 members)
    refine hrest.trans ?_
    rw [member?_setMember, Json.member?_cons]
    by_cases hk : key = head.1
    · subst hk
      have hnone : member? head.1 rest = none := by
        cases hm : member? head.1 rest with
        | none => rfl
        | some value =>
          have hne := ne_key_of_increasing h (Json.mem_of_member? hm)
          exact absurd rfl hne
      simp [hnone]
    · simp [hk, Ne.symm hk]

theorem member?_dropMembers (keys : List String) (members : List (String × Json)) (key : String) :
    member? key (dropMembers keys members) = if key ∈ keys then none else member? key members := by
  induction keys generalizing members with
  | nil => simp [dropMembers]
  | cons head rest ih =>
    refine (ih (dropMember head members)).trans ?_
    rw [member?_dropMember]
    by_cases hk : key = head <;> simp [hk]

theorem apply_add_member (key : String) (value : Json) (members : List (String × Json)) :
    (Operation.add [key] value).apply (.object members) =
      some (.object (setMember key value members)) := rfl

theorem apply_remove_member {key : String} {members : List (String × Json)}
    (h : (member? key members).isSome) :
    (Operation.remove [key]).apply (.object members) =
      some (.object (dropMember key members)) := by
  obtain ⟨value, hv⟩ := Option.isSome_iff_exists.mp h
  simp [Operation.apply, atPath, removeAt, hv]

/-- The members of the new object are put in, while those still to come are as the old had them. -/
theorem apply_diffMembers {old new : List (String × Json)}
    (ho : ∀ member ∈ old, member.2.Canonical) (hn : Increasing new)
    (hp : ∀ member ∈ new, ∀ value : Json, value.Canonical →
      apply (diff [] value member.2) value = some member.2)
    {members : List (String × Json)} (hm : Increasing members)
    (hsame : ∀ member ∈ new, member? member.1 members = member? member.1 old) :
    apply (diffMembers [] old new) (.object members) = some (.object (setMembers new members)) := by
  induction new generalizing members with
  | nil => rfl
  | cons head rest ih =>
    have hkey := hsame head List.mem_cons_self
    have hrest := ih (List.pairwise_cons.mp hn).2
      (fun member hmem => hp member (List.mem_cons_of_mem _ hmem))
      (increasing_setMember head.1 head.2 hm)
      (fun member hmem => by
        rw [member?_setMember, if_neg (ne_key_of_increasing hn hmem)]
        exact hsame member (List.mem_cons_of_mem _ hmem))
    cases hold : member? head.1 old with
    | none =>
      simp only [diffMembers, hold, List.nil_append]
      rw [apply_append, apply_cons, apply_add_member]
      exact hrest
    | some value =>
      rw [hold] at hkey
      have hvalue := ho _ (Json.mem_of_member? hold)
      have hordered : Ordered (.object members) := hm
      have hhead := apply_diff_step hordered hkey (hp head List.mem_cons_self value hvalue)
      simp only [diffMembers, hold, List.nil_append]
      rw [apply_append, hhead]
      exact hrest

theorem apply_removes {keys : List String} (hk : keys.Nodup) {members : List (String × Json)}
    (h : ∀ key ∈ keys, (member? key members).isSome) :
    apply (keys.map fun key => .remove [key]) (.object members) =
      some (.object (dropMembers keys members)) := by
  induction keys generalizing members with
  | nil => rfl
  | cons key rest ih =>
    obtain ⟨hnot, hrest⟩ := List.nodup_cons.mp hk
    rw [List.map_cons, apply_cons, apply_remove_member (h key List.mem_cons_self),
      Option.bind_some]
    refine ih hrest fun other ho => ?_
    have hne : other ≠ key := fun he => hnot (he ▸ ho)
    rw [member?_dropMember, if_neg hne]
    exact h other (List.mem_cons_of_mem _ ho)

def goneKeys (old new : List (String × Json)) : List String :=
  (old.filter fun member => (member? member.1 new).isNone).map (·.1)

theorem mem_goneKeys {old new : List (String × Json)} (ho : Increasing old) {key : String} :
    key ∈ goneKeys old new ↔ (member? key old).isSome ∧ member? key new = none := by
  simp only [goneKeys, List.mem_map, List.mem_filter, Option.isNone_iff_eq_none,
    Option.isSome_iff_exists, Json.member?_eq_some_iff ho]
  constructor
  · rintro ⟨⟨k, value⟩, ⟨hm, hnone⟩, rfl⟩
    exact ⟨⟨value, hm⟩, hnone⟩
  · rintro ⟨⟨value, hm⟩, hnone⟩
    exact ⟨(key, value), ⟨hm, hnone⟩, rfl⟩

theorem nodup_goneKeys {old : List (String × Json)} (ho : Increasing old)
    (new : List (String × Json)) : (goneKeys old new).Nodup := by
  refine List.Pairwise.map (·.1) ?_ (List.Pairwise.filter _ ho)
  intro a b hlt he
  simp [he] at hlt

theorem removedMembers_eq (old new : List (String × Json)) :
    removedMembers [] old new = (goneKeys old new).map fun key => .remove [key] := by
  simp [removedMembers, goneKeys, Function.comp_def]

theorem dropMembers_setMembers {old new : List (String × Json)} (ho : Increasing old)
    (hn : Increasing new) : dropMembers (goneKeys old new) (setMembers new old) = new := by
  refine Json.ext_member? (increasing_dropMembers (increasing_setMembers ho)) hn fun key => ?_
  rw [member?_dropMembers, member?_setMembers hn]
  by_cases hgone : key ∈ goneKeys old new
  · rw [if_pos hgone, ((mem_goneKeys ho).mp hgone).2]
  · rw [if_neg hgone]
    cases hnew : member? key new with
    | some value => rfl
    | none =>
      cases hold : member? key old with
      | none => rfl
      | some value => exact absurd ((mem_goneKeys ho).mpr ⟨by simp [hold], hnew⟩) hgone

-- ---------------------------------------------------------------------------
-- Documents
-- ---------------------------------------------------------------------------

/-- The patch between two canonical documents leads from the one to the other. -/
theorem apply_diff {old new : Json} (ho : old.Canonical) (hn : new.Canonical) :
    apply (diff [] old new) old = some new := by
  induction hn generalizing old with
  | scalar new =>
    cases ho with
    | scalar value =>
      by_cases h : value = new
      · simp [diff, h, apply]
      · simp only [diff, h, if_false]
        rfl
    | list _ => rfl
    | object _ _ => rfl
  | @list new hnew ih =>
    cases ho with
    | scalar value => rfl
    | list hold => exact apply_diffItems (fun value hv item hi => ih value hv hi) [] hold
    | object _ _ => rfl
  | @object new hinc hnew ih =>
    cases ho with
    | scalar value => rfl
    | list _ => rfl
    | @object members hmembers hold =>
      have hset := apply_diffMembers hold hinc (fun member hm value hv => ih member hm hv)
        hmembers (fun _ _ => rfl)
      have hgone : ∀ key ∈ goneKeys members new,
          (member? key (setMembers new members)).isSome := by
        intro key hk
        rw [member?_setMembers hinc, ((mem_goneKeys hmembers).mp hk).2, Option.none_or]
        exact ((mem_goneKeys hmembers).mp hk).1
      simp only [diff]
      rw [apply_append, hset, Option.bind_some, removedMembers_eq,
        apply_removes (nodup_goneKeys hmembers new) hgone, dropMembers_setMembers hmembers hinc]

theorem diffItems_self {items : List Json} (path : Pointer) (i : Nat)
    (h : ∀ item ∈ items, ∀ path, diff path item item = []) :
    diffItems path i items items = [] := by
  induction items generalizing i with
  | nil => rfl
  | cons item rest ih =>
    simp only [diffItems]
    rw [h item List.mem_cons_self, ih _ fun x hx => h x (List.mem_cons_of_mem _ hx)]
    rfl

theorem diffMembers_self {members new : List (String × Json)} (path : Pointer)
    (hm : ∀ member ∈ new, member? member.1 members = some member.2)
    (h : ∀ member ∈ new, ∀ path, diff path member.2 member.2 = []) :
    diffMembers path members new = [] := by
  induction new with
  | nil => rfl
  | cons head rest ih =>
    simp only [diffMembers, hm head List.mem_cons_self]
    rw [h head List.mem_cons_self, ih (fun x hx => hm x (List.mem_cons_of_mem _ hx))
      fun x hx => h x (List.mem_cons_of_mem _ hx)]
    rfl

theorem diff_self {document : Json} (h : document.Canonical) (path : Pointer) :
    diff path document document = [] := by
  induction h generalizing path with
  | scalar value => simp [diff]
  | list _ ih => exact diffItems_self path 0 fun item hi path => ih item hi path
  | @object members hinc _ ih =>
    have hm : ∀ member ∈ members, member? member.1 members = some member.2 :=
      fun member hmem => (Json.member?_eq_some_iff hinc).mpr hmem
    have hgone : removedMembers path members members = [] := by
      simp only [removedMembers, List.map_eq_nil_iff, List.filter_eq_nil_iff]
      intro member hmem
      simp [hm member hmem]
    simp only [diff]
    rw [diffMembers_self path hm fun member hmem path => ih member hmem path, hgone]
    rfl

theorem diff_eq_nil_iff {old new : Json} (ho : old.Canonical) (hn : new.Canonical) :
    diff [] old new = [] ↔ old = new := by
  constructor
  · intro h
    have := apply_diff ho hn
    rw [h] at this
    exact Option.some.inj this
  · rintro rfl
    exact diff_self ho []

end OrdinalAdmission.Patch
