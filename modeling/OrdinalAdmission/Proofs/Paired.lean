import Mathlib.Data.List.Forall2
import OrdinalAdmission.Proofs.Placing

/-!
# Placing two lists of items side by side

Items that go to the same entries and differ in what they make of them give lists of one shape:
where an entry is revised or added does not depend on what is written there. `Paired` says where two
such lists may differ, `paired_placeAll` that they do differ in no other way.
-/

namespace OrdinalAdmission

-- ---------------------------------------------------------------------------
-- Lists that differ at the first entry of some keys
-- ---------------------------------------------------------------------------

section
variable {α κ : Type}

def IsFirst (key : α → κ) (list : List α) (i : Nat) (entry : α) : Prop :=
  ∀ j < i, ∀ earlier, list[j]? = some earlier → key earlier ≠ key entry

/-- The lists are of one length and have equal entries but where the first entry of a claimed key
stands: there the entries are apart by `changed`. -/
structure Paired (key : α → κ) (claimed : κ → Prop) (changed : α → α → Prop) (xs ys : List α) :
    Prop where
  length : ys.length = xs.length
  first : ∀ (i : Nat) x y, xs[i]? = some x → ys[i]? = some y →
    claimed (key x) → IsFirst key xs i x → changed x y
  rest : ∀ (i : Nat) x y, xs[i]? = some x → ys[i]? = some y →
    ¬ (claimed (key x) ∧ IsFirst key xs i x) → y = x

variable {key : α → κ} {claimed : κ → Prop} {changed : α → α → Prop} {x y : α} {xs ys : List α}

theorem isFirst_succ {head : α} {i : Nat} :
    IsFirst key (head :: xs) (i + 1) x ↔ key x ≠ key head ∧ IsFirst key xs i x := by
  constructor
  · intro h
    refine ⟨(h 0 (Nat.succ_pos i) head rfl).symm, fun j hj earlier he => ?_⟩
    exact h (j + 1) (Nat.succ_lt_succ hj) earlier he
  · rintro ⟨hne, h⟩ j hj earlier he
    cases j with
    | zero =>
      cases he
      exact hne.symm
    | succ j => exact h j (Nat.lt_of_succ_lt_succ hj) earlier he

namespace Paired

theorem nil : Paired key claimed changed [] [] where
  length := rfl
  first _ _ _ hx := nomatch hx
  rest _ _ _ hx := nomatch hx

theorem congr {claimed' : κ → Prop} (h : Paired key claimed changed xs ys)
    (hc : ∀ key, claimed key ↔ claimed' key) : Paired key claimed' changed xs ys := by
  obtain rfl : claimed = claimed' := funext fun key => propext (hc key)
  exact h

theorem same (xs : List α) (h : ∀ key, ¬ claimed key) : Paired key claimed changed xs xs where
  length := rfl
  first _ x _ _ _ hc := absurd hc (h (key x))
  rest _ _ _ hx hy _ := Option.some.inj (hy.symm.trans hx)

theorem cons (hclaimed : claimed (key x) → changed x y) (hother : ¬ claimed (key x) → y = x)
    (h : Paired key (fun other => claimed other ∧ other ≠ key x) changed xs ys) :
    Paired key claimed changed (x :: xs) (y :: ys) where
  length := by simp [h.length]
  first i := by
    cases i with
    | zero =>
      rintro _ _ ⟨⟩ ⟨⟩ hc -
      exact hclaimed hc
    | succ i =>
      -- The head's key is claimed by the head, so first entries of the tail have other keys.
      intro z w hz hw hc hfirst
      obtain ⟨hne, hfirst⟩ := isFirst_succ.mp hfirst
      exact h.first i z w hz hw ⟨hc, hne⟩ hfirst
  rest i := by
    cases i with
    | zero =>
      rintro _ _ ⟨⟩ ⟨⟩ hn
      exact hother fun hc => hn ⟨hc, fun j hj => absurd hj (Nat.not_lt_zero j)⟩
    | succ i =>
      intro z w hz hw hn
      refine h.rest i z w hz hw fun ⟨⟨hc, hne⟩, hfirst⟩ => ?_
      exact hn ⟨hc, isFirst_succ.mpr ⟨hne, hfirst⟩⟩

theorem forall₂ {R : α → α → Prop} (h : Paired key claimed changed xs ys)
    (hchanged : ∀ x y, changed x y → R x y) (hrefl : ∀ x, R x x) : List.Forall₂ R xs ys := by
  rw [List.forall₂_iff_get]
  refine ⟨h.length.symm, fun i hx hy => ?_⟩
  have hxs : xs[i]? = some (xs.get ⟨i, hx⟩) := List.getElem?_eq_getElem hx
  have hys : ys[i]? = some (ys.get ⟨i, hy⟩) := List.getElem?_eq_getElem hy
  by_cases hc : claimed (key (xs.get ⟨i, hx⟩)) ∧ IsFirst key xs i (xs.get ⟨i, hx⟩)
  · exact hchanged _ _ (h.first i _ _ hxs hys hc.1 hc.2)
  · rw [h.rest i _ _ hxs hys hc]
    exact hrefl _

end Paired

end

-- ---------------------------------------------------------------------------
-- Two lists of items
-- ---------------------------------------------------------------------------

namespace Placing

section
variable {ι α κ : Type} {placing : Placing ι α κ} {R : ι → ι → Prop} {changed : α → α → Prop}

theorem changed_settle (hrevise : ∀ one other, R one other → ∀ entry,
      changed (placing.revise one entry) (placing.revise other entry))
    {items others : List ι} (h : List.Forall₂ R items others) (hne : items ≠ []) (entry : α) :
    changed (placing.settle items entry) (placing.settle others entry) := by
  induction h with
  | nil => exact absurd rfl hne
  | @cons one other rest rest' hr hrest ih =>
    cases rest with
    | nil =>
      cases hrest
      exact hrevise one other hr entry
    | cons next more =>
      have hne' : rest' ≠ [] := by
        rintro rfl
        cases hrest
      have hone : placing.settle (one :: next :: more) entry =
          placing.settle (next :: more) entry := placing.settle_revise (by simp) one entry
      have hother : placing.settle (other :: rest') entry = placing.settle rest' entry :=
        placing.settle_revise hne' other entry
      rw [hone, hother]
      exact ih (by simp)

variable [DecidableEq κ]

/-- Items that agree on the entries they start from, and differ by `changed` in what they make of an
entry, place alike: only the first entry of each of their keys differs, and by no more. -/
theorem paired_placeAll
    (hseed : ∀ one other, R one other → placing.seed other = placing.seed one)
    (hrevise : ∀ one other, R one other → ∀ entry,
      changed (placing.revise one entry) (placing.revise other entry))
    {items others : List ι} (h : List.Forall₂ R items others) (list : List α) :
    Paired placing.key (fun key => ∃ item ∈ items, placing.target item = key) changed
      (placing.placeAll items list) (placing.placeAll others list) := by
  have htarget : ∀ one other, R one other → placing.target other = placing.target one :=
    fun one other hr => congrArg placing.key (hseed one other hr)
  induction items, list using placing.placing_induction generalizing others with
  | nil =>
    cases h
    exact .nil
  | cons items entry rest ih =>
    have hfor : List.Forall₂ R (placing.itemsFor (placing.key entry) items)
        (placing.itemsFor (placing.key entry) others) :=
      List.rel_filter (fun one other hr => by simp [htarget one other hr]) h
    have hpast : List.Forall₂ R (placing.itemsPast (placing.key entry) items)
        (placing.itemsPast (placing.key entry) others) :=
      List.rel_filter (fun one other hr => by simp [htarget one other hr]) h
    rw [placeAll_cons, placeAll_cons]
    refine .cons ?_ ?_ ((ih hpast).congr fun key => ?_)
    · rw [key_settle_itemsFor]
      rintro ⟨item, hm, hkey⟩
      refine changed_settle hrevise hfor (List.ne_nil_of_mem (a := item) ?_) entry
      exact List.mem_filter.mpr ⟨hm, decide_eq_true hkey⟩
    · rw [key_settle_itemsFor]
      intro hnone
      have hnil : placing.itemsFor (placing.key entry) items = [] := by
        rw [itemsFor, List.filter_eq_nil_iff]
        exact fun item hm hkey => hnone ⟨item, hm, of_decide_eq_true hkey⟩
      rw [hnil] at hfor ⊢
      rw [List.forall₂_nil_left_iff.mp hfor]
    · rw [key_settle_itemsFor]
      simp only [itemsPast, List.mem_filter, decide_eq_true_eq]
      constructor
      · rintro ⟨item, ⟨hm, hne⟩, rfl⟩
        exact ⟨⟨item, hm, rfl⟩, hne⟩
      · rintro ⟨⟨item, hm, rfl⟩, hne⟩
        exact ⟨item, ⟨hm, hne⟩, rfl⟩
  | seed item items ih =>
    cases h with
    | @cons _ other _ rest hr hrest =>
      have hseeds := hseed item other hr
      rw [placing.placeAll_seed, placing.placeAll_seed, hseeds]
      exact ih (.cons hr hrest)

theorem paired_updates
    (hseed : ∀ one other, R one other → placing.seed other = placing.seed one)
    (hrevise : ∀ one other, R one other → ∀ entry,
      changed (placing.revise one entry) (placing.revise other entry))
    {step : ι → List α → List α} (hstep : ∀ item list, step item list = placing.place item list)
    {items others : List ι} (h : List.Forall₂ R items others) (list : Option (List α)) :
    Option.Rel (Paired placing.key (fun key => ∃ item ∈ items, placing.target item = key) changed)
      (updates step items list) (updates step others list) := by
  cases h with
  | nil =>
    cases list with
    | none => exact .none
    | some list => exact .some (.same list fun _ => by simp)
  | @cons item other rest rest' hr hrest =>
    have hpaired := paired_placeAll hseed hrevise (.cons hr hrest) (list.getD [])
    rw [← getD_updates hstep, ← getD_updates hstep] at hpaired
    exact .some hpaired

end

end Placing

end OrdinalAdmission
