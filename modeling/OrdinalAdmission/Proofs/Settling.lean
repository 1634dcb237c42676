import OrdinalAdmission.Proofs.Paired

/-!
# What placing leaves of a list

Three facts are known of the list in which items are placed. Its keys are those it had and then the
new ones in the order in which the items bring them (`keys_placeAll`). The first entry of a key that
items go to is the first there was, or else the first of their seeds, revised by the last of them
(`find?_placeAll`). Every other entry stays where it was (`getElem?_placeAll_of_unclaimed`). Facts
of this kind leave no choice: `ext_of_claimed`.
-/

namespace OrdinalAdmission

-- ---------------------------------------------------------------------------
-- First occurrences
-- ---------------------------------------------------------------------------

section
variable {κ : Type} [BEq κ] [LawfulBEq κ]

theorem eraseDups_filter (p : κ → Bool) (keys : List κ) :
    (keys.filter p).eraseDups = keys.eraseDups.filter p := by
  match keys with
  | [] => rfl
  | key :: rest =>
    have ih := eraseDups_filter p (rest.filter fun other => !other == key)
    rw [List.eraseDups_cons, List.filter_cons, List.filter_cons, ← ih]
    by_cases hp : p key
    · simp only [hp, if_true, List.eraseDups_cons, List.filter_filter, Bool.and_comm]
    · -- The key itself is dropped, so dropping its repetitions changes nothing.
      have hdropped : (rest.filter fun other => !other == key).filter p = rest.filter p := by
        rw [List.filter_filter]
        refine List.filter_congr fun other _ => ?_
        cases hother : other == key with
        | false => simp
        | true => simp [eq_of_beq hother, hp]
      simp only [hp, Bool.false_eq_true, if_false, hdropped]
termination_by keys.length
decreasing_by exact Nat.lt_succ_of_le (List.length_filter_le _ _)

theorem nodup_eraseDups (keys : List κ) : keys.eraseDups.Nodup := by
  match keys with
  | [] => exact .nil
  | key :: rest =>
    rw [List.eraseDups_cons, List.nodup_cons]
    refine ⟨fun hm => ?_, nodup_eraseDups _⟩
    simpa using List.mem_eraseDups.mp hm
termination_by keys.length
decreasing_by exact Nat.lt_succ_of_le (List.length_filter_le _ _)

theorem eraseDups_flatMap_cons {α : Type} (key : κ) (f : α → List κ) {groups : List α}
    (h : groups ≠ []) :
    (groups.flatMap fun group => key :: f group).eraseDups =
      (key :: groups.flatMap f).eraseDups := by
  cases groups with
  | nil => exact absurd rfl h
  | cons group rest =>
    rw [List.flatMap_cons, List.flatMap_cons, List.cons_append, List.eraseDups_cons,
      List.eraseDups_cons]
    simp [List.filter_flatMap]

end

-- ---------------------------------------------------------------------------
-- Lists that have their first entries in common
-- ---------------------------------------------------------------------------

section
variable {α κ : Type} [DecidableEq κ] {key : α → κ} {xs ys : List α}

theorem ext_of_nodup_keys (hkeys : xs.map key = ys.map key) (hnodup : (xs.map key).Nodup)
    (hfirst : ∀ k ∈ xs.map key, xs.find? (key · = k) = ys.find? (key · = k)) : xs = ys := by
  induction xs generalizing ys with
  | nil => exact (List.map_eq_nil_iff.mp hkeys.symm).symm
  | cons x xs ih =>
    obtain ⟨y, ys, rfl, hhead, htail⟩ := List.map_eq_cons_iff.mp hkeys.symm
    obtain ⟨hnew, hnodup⟩ := List.nodup_cons.mp hnodup
    obtain rfl : x = y := by simpa [hhead] using hfirst (key x) List.mem_cons_self
    refine congrArg _ (ih htail.symm hnodup fun k hk => ?_)
    have hne : key x ≠ k := fun h => hnew (h ▸ hk)
    simpa [hne] using hfirst k (List.mem_cons_of_mem _ hk)

/-- Two lists are equal that have the keys of a third list and then new ones, the same first entry
of each claimed key, and the entries of the third list elsewhere. -/
theorem ext_of_first (claimed : κ → Prop) {before : List α} {fresh : List κ}
    (hxs : xs.map key = before.map key ++ fresh) (hys : ys.map key = before.map key ++ fresh)
    (hnodup : fresh.Nodup) (hfresh : ∀ k ∈ fresh, claimed k ∧ k ∉ before.map key)
    (hfirst : ∀ k, claimed k → xs.find? (key · = k) = ys.find? (key · = k))
    (hothers : ∀ (i : Nat) entry, before[i]? = some entry →
      (claimed (key entry) → ¬ IsFirst key before i entry) →
      xs[i]? = some entry ∧ ys[i]? = some entry) : xs = ys := by
  induction before generalizing xs ys claimed with
  | nil =>
    rw [List.map_nil, List.nil_append] at hxs hys
    exact ext_of_nodup_keys (hxs.trans hys.symm) (hxs ▸ hnodup) fun k hk =>
      hfirst k (hfresh k (hxs ▸ hk)).1
  | cons head before ih =>
    obtain ⟨x, xs, rfl, hx, hxs'⟩ := List.map_eq_cons_iff.mp hxs
    obtain ⟨y, ys, rfl, hy, hys'⟩ := List.map_eq_cons_iff.mp hys
    obtain rfl : x = y := by
      by_cases hclaimed : claimed (key head)
      · simpa [hx, hy] using hfirst (key head) hclaimed
      · obtain ⟨hone, hother⟩ := hothers 0 head rfl fun hc => absurd hc hclaimed
        exact Option.some.inj (hone.trans hother.symm)
    -- The head's key is settled, so the lists behind it agree on the other claimed keys.
    refine congrArg _ (ih (fun k => claimed k ∧ k ≠ key head) hxs' hys' ?_ ?_ ?_)
    · intro k hk
      obtain ⟨hclaimed, hnew⟩ := hfresh k hk
      rw [List.map_cons, List.mem_cons, not_or] at hnew
      exact ⟨⟨hclaimed, hnew.1⟩, hnew.2⟩
    · rintro k ⟨hclaimed, hne⟩
      simpa [hx, Ne.symm hne] using hfirst k hclaimed
    · intro i entry hentry hnot
      refine hothers (i + 1) entry hentry fun hclaimed hisFirst => ?_
      obtain ⟨hne, hisFirst⟩ := isFirst_succ.mp hisFirst
      exact hnot ⟨hclaimed, hne⟩ hisFirst

theorem ext_of_claimed [BEq κ] [LawfulBEq κ] {keys : List κ} {before : List α}
    (hxs : xs.map key = before.map key ++ keys.eraseDups.filter (· ∉ before.map key))
    (hys : ys.map key = before.map key ++ keys.eraseDups.filter (· ∉ before.map key))
    (hfirst : ∀ k ∈ keys, xs.find? (key · = k) = ys.find? (key · = k))
    (hothers : ∀ (i : Nat) entry, before[i]? = some entry →
      (key entry ∈ keys → ¬ IsFirst key before i entry) →
      xs[i]? = some entry ∧ ys[i]? = some entry) : xs = ys := by
  have hfresh : ∀ k ∈ keys.eraseDups.filter (· ∉ before.map key),
      k ∈ keys ∧ k ∉ before.map key := by
    intro k hk
    obtain ⟨hclaimed, hnew⟩ := List.mem_filter.mp hk
    exact ⟨List.mem_eraseDups.mp hclaimed, of_decide_eq_true hnew⟩
  exact ext_of_first (· ∈ keys) hxs hys ((nodup_eraseDups _).filter _) hfresh hfirst hothers

end

namespace Placing

section
variable {ι α κ : Type} [DecidableEq κ] (placing : Placing ι α κ)

-- ---------------------------------------------------------------------------
-- Keys
-- ---------------------------------------------------------------------------

theorem keys_placeAll [BEq κ] [LawfulBEq κ] (items : List ι) (list : List α) :
    (placing.placeAll items list).map placing.key =
      list.map placing.key ++
        (items.map placing.target).eraseDups.filter (· ∉ list.map placing.key) := by
  induction items, list using placing.placing_induction with
  | nil => rfl
  | cons items entry rest ih =>
    have hpast : (placing.itemsPast (placing.key entry) items).map placing.target =
        (items.map placing.target).filter (· ≠ placing.key entry) := by
      rw [itemsPast, List.filter_map]
      rfl
    rw [placeAll_cons, List.map_cons, key_settle_itemsFor, ih, hpast, eraseDups_filter,
      List.filter_filter, List.map_cons, List.cons_append]
    simp [Bool.and_comm]
  | seed item items ih =>
    have hfirst : ((item :: items).map placing.target).eraseDups = placing.target item ::
        (items.map placing.target).eraseDups.filter (!· == placing.target item) := by
      rw [List.map_cons, List.eraseDups_cons, eraseDups_filter]
    rw [placeAll_seed, ih, hfirst]
    simp [target, beq_eq_decide]

-- ---------------------------------------------------------------------------
-- Entries
-- ---------------------------------------------------------------------------

/-- The first entry of a key that items go to: of the entries that were there and the seeds the
first, as the last of these items revises it. -/
theorem find?_placeAll {key : κ} {items : List ι} {last : ι}
    (hlast : (placing.itemsFor key items).getLast? = some last) (list : List α) :
    ∃ source, (list ++ items.map placing.seed).find? (placing.key · = key) = some source ∧
      (placing.placeAll items list).find? (placing.key · = key) =
        some (placing.revise last source) := by
  induction items, list using placing.placing_induction with
  | nil => simp [itemsFor] at hlast
  | cons items entry rest ih =>
    rw [placeAll_cons]
    by_cases hkey : placing.key entry = key
    · subst hkey
      obtain ⟨earlier, hitems⟩ := List.getLast?_eq_some_iff.mp hlast
      refine ⟨entry, by simp, ?_⟩
      rw [List.find?_cons_of_pos (by simp [key_settle_itemsFor]), hitems, settle_snoc]
    · -- The items of the key all go past this entry.
      have hpast : placing.itemsFor key (placing.itemsPast (placing.key entry) items) =
          placing.itemsFor key items := by
        rw [itemsFor, itemsPast, List.filter_filter]
        refine List.filter_congr fun item _ => ?_
        by_cases htarget : placing.target item = key <;> simp [htarget, Ne.symm hkey]
      obtain ⟨source, hsource, hplaced⟩ := ih (hpast ▸ hlast)
      refine ⟨source, ?_, ?_⟩
      · have hseeds : ((placing.itemsPast (placing.key entry) items).map placing.seed).find?
            (placing.key · = key) = (items.map placing.seed).find? (placing.key · = key) := by
          rw [List.find?_map, List.find?_map, itemsPast, List.find?_filter]
          refine congrArg (fun p => (items.find? p).map placing.seed) (funext fun item => ?_)
          by_cases htarget : placing.key (placing.seed item) = key <;>
            simp [target, htarget, Ne.symm hkey]
        rwa [List.cons_append, List.find?_cons_of_neg (by simpa using hkey), List.find?_append,
          ← hseeds, ← List.find?_append]
      · rw [List.find?_cons_of_neg (by simpa [key_settle_itemsFor] using hkey), hplaced]
  | seed item items ih =>
    obtain ⟨source, hsource, hplaced⟩ := ih hlast
    refine ⟨source, ?_, by rw [placeAll_seed, hplaced]⟩
    by_cases hkey : placing.key (placing.seed item) = key <;> simpa [hkey] using hsource

theorem getElem?_placeAll_of_unclaimed {items : List ι} {list : List α} {i : Nat} {entry : α}
    (hentry : list[i]? = some entry)
    (h : (∃ item ∈ items, placing.target item = placing.key entry) →
      ¬ IsFirst placing.key list i entry) :
    (placing.placeAll items list)[i]? = some entry := by
  induction list generalizing items i with
  | nil => simp at hentry
  | cons head rest ih =>
    rw [placeAll_cons]
    cases i with
    | zero =>
      obtain rfl : head = entry := Option.some.inj hentry
      have hnone : placing.itemsFor (placing.key head) items = [] := by
        refine List.filter_eq_nil_iff.mpr fun item hm => ?_
        have hfirst : IsFirst placing.key (head :: rest) 0 head :=
          fun j hj => absurd hj (Nat.not_lt_zero j)
        simpa using fun htarget => h ⟨item, hm, htarget⟩ hfirst
      rw [hnone]
      rfl
    | succ i =>
      refine ih hentry ?_
      rintro ⟨item, hm, htarget⟩ hfirst
      obtain ⟨hm, hpast⟩ := List.mem_filter.mp hm
      refine h ⟨item, hm, htarget⟩ (isFirst_succ.mpr ⟨?_, hfirst⟩)
      rw [← htarget]
      simpa using hpast

end

end Placing

end OrdinalAdmission
