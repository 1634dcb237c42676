import OrdinalAdmission.Proofs.Container

/-!
# Placing items by key

Ports are bound and variables are set in one way: an item goes to the first entry with its key, and
an entry of its own is added at the end where no entry has the key. What an item makes of an entry
depends on no earlier item. Placing a list of items therefore splits at the head of the list
(`placeAll_cons`): the items with the head's key settle the head, the others go on to the rest.
Repeated keys, among the items or in the list, need no case of their own after that.
-/

namespace OrdinalAdmission

/-- How items find the entries they go to and what they make of them. -/
structure Placing (ι α κ : Type) where
  key : α → κ
  /-- What an item revises where no entry has its key. -/
  seed : ι → α
  revise : ι → α → α
  key_revise : ∀ item entry, key entry = key (seed item) → key (revise item entry) = key entry
  revise_revise : ∀ later earlier entry, revise later (revise earlier entry) = revise later entry

namespace Placing

section
variable {ι α κ : Type} (placing : Placing ι α κ)

def target (item : ι) : κ := placing.key (placing.seed item)

-- ---------------------------------------------------------------------------
-- One entry
-- ---------------------------------------------------------------------------

def settle (items : List ι) (entry : α) : α :=
  items.foldl (fun entry item => placing.revise item entry) entry

theorem revise_settle (item : ι) (items : List ι) (entry : α) :
    placing.revise item (placing.settle items entry) = placing.revise item entry := by
  induction items generalizing entry with
  | nil => rfl
  | cons earlier rest ih =>
    calc placing.revise item (placing.settle rest (placing.revise earlier entry))
        = placing.revise item (placing.revise earlier entry) := ih _
      _ = placing.revise item entry := placing.revise_revise item earlier entry

theorem settle_snoc (items : List ι) (item : ι) (entry : α) :
    placing.settle (items ++ [item]) entry = placing.revise item entry := by
  rw [settle, List.foldl_append]
  exact placing.revise_settle item items entry

theorem settle_settle (items : List ι) (entry : α) :
    placing.settle items (placing.settle items entry) = placing.settle items entry := by
  -- Only the last item counts, and it makes the same of what it made itself.
  rcases List.eq_nil_or_concat items with rfl | ⟨earlier, last, rfl⟩
  · rfl
  · rw [List.concat_eq_append, settle_snoc, settle_snoc, placing.revise_revise]

theorem settle_revise {items : List ι} (h : items ≠ []) (earlier : ι) (entry : α) :
    placing.settle items (placing.revise earlier entry) = placing.settle items entry := by
  cases items with
  | nil => exact absurd rfl h
  | cons item rest => simp only [settle, List.foldl_cons, placing.revise_revise]

theorem key_settle {items : List ι} {entry : α}
    (h : ∀ item ∈ items, placing.target item = placing.key entry) :
    placing.key (placing.settle items entry) = placing.key entry := by
  induction items generalizing entry with
  | nil => rfl
  | cons item rest ih =>
    have hkey := placing.key_revise item entry (h item List.mem_cons_self).symm
    refine (ih fun other ho => ?_).trans hkey
    rw [hkey]
    exact h other (List.mem_cons_of_mem _ ho)

-- ---------------------------------------------------------------------------
-- A list
-- ---------------------------------------------------------------------------

variable [DecidableEq κ]

def place (item : ι) : List α → List α
  | [] => [placing.revise item (placing.seed item)]
  | entry :: rest =>
    if placing.key entry = placing.target item then placing.revise item entry :: rest
    else entry :: place item rest

def placeAll (items : List ι) (list : List α) : List α :=
  items.foldl (fun list item => placing.place item list) list

def itemsFor (key : κ) (items : List ι) : List ι :=
  items.filter fun item => placing.target item = key

def itemsPast (key : κ) (items : List ι) : List ι :=
  items.filter fun item => placing.target item ≠ key

theorem key_settle_itemsFor (items : List ι) (entry : α) :
    placing.key (placing.settle (placing.itemsFor (placing.key entry) items) entry) =
      placing.key entry :=
  placing.key_settle fun _ h => of_decide_eq_true (List.mem_filter.mp h).2

theorem placeAll_cons (items : List ι) (entry : α) (rest : List α) :
    placing.placeAll items (entry :: rest) =
      placing.settle (placing.itemsFor (placing.key entry) items) entry ::
        placing.placeAll (placing.itemsPast (placing.key entry) items) rest := by
  induction items generalizing entry rest with
  | nil => rfl
  | cons item items ih =>
    rw [placeAll, List.foldl_cons, ← placeAll, place]
    split
    · next hkey =>
      have hsame := placing.key_revise item entry hkey
      rw [ih, hsame]
      simp [itemsFor, itemsPast, hkey, settle]
    · next hkey =>
      rw [ih]
      simp [itemsFor, itemsPast, Ne.symm hkey, placeAll]

theorem placeAll_seed (item : ι) (items : List ι) :
    placing.placeAll (item :: items) [] = placing.placeAll (item :: items) [placing.seed item] := by
  simp [placeAll, place, target]

/-- Induction along a list in which items are placed: at the head of the list the items for its key
are used up, and past its end the first item goes on with its seed. -/
theorem placing_induction {motive : List ι → List α → Prop} (nil : motive [] [])
    (cons : ∀ items entry rest, motive (placing.itemsPast (placing.key entry) items) rest →
      motive items (entry :: rest))
    (seed : ∀ item items, motive (item :: items) [placing.seed item] → motive (item :: items) [])
    (items : List ι) (list : List α) : motive items list := by
  induction list generalizing items with
  | nil =>
    -- The list is no measure past its end, but a seed uses up the item it comes from.
    induction hn : items.length using Nat.strongRecOn generalizing items with
    | ind n ih =>
      cases items with
      | nil => exact nil
      | cons item rest =>
        refine seed item rest (cons _ _ _ (ih _ ?_ _ rfl))
        have hpast : placing.itemsPast (placing.key (placing.seed item)) (item :: rest) =
            placing.itemsPast (placing.key (placing.seed item)) rest := by
          simp [itemsPast, target]
        rw [hpast, ← hn, List.length_cons, Nat.lt_succ_iff]
        exact List.length_filter_le _ _
  | cons entry rest ih => exact cons items entry rest (ih _)

theorem placeAll_placeAll (items : List ι) (list : List α) :
    placing.placeAll items (placing.placeAll items list) = placing.placeAll items list := by
  induction items, list using placing.placing_induction with
  | nil => rfl
  | cons items entry rest ih =>
    rw [placing.placeAll_cons items entry rest, placeAll_cons, key_settle_itemsFor, settle_settle,
      ih]
  | seed item items ih =>
    rw [placing.placeAll_seed item items]
    exact ih

/-- One item leaves every key as often as it was, but its own at least once. -/
theorem count_place (item : ι) (key : κ) (list : List α) :
    ((placing.place item list).map placing.key).count key =
      if placing.target item = key then max 1 ((list.map placing.key).count key)
      else (list.map placing.key).count key := by
  induction list with
  | nil =>
    have hkey : placing.key (placing.revise item (placing.seed item)) = placing.target item :=
      placing.key_revise item _ rfl
    simp [place, List.count_singleton, hkey]
  | cons entry rest ih =>
    rw [place]
    split
    · next hkey =>
      rw [List.map_cons, placing.key_revise item entry hkey, ← List.map_cons]
      split
      · next htarget =>
        have hpos : 0 < ((entry :: rest).map placing.key).count key :=
          List.count_pos_iff.mpr (by simp [← htarget, hkey])
        omega
      · rfl
    · next hkey =>
      simp only [List.map_cons, List.count_cons, ih]
      split
      · next htarget =>
        subst htarget
        simp [hkey]
      · rfl

theorem count_placeAll_le (items : List ι) (key : κ) (list : List α) :
    ((placing.placeAll items list).map placing.key).count key ≤
      max 1 ((list.map placing.key).count key) := by
  induction items generalizing list with
  | nil => exact Nat.le_max_right _ _
  | cons item rest ih =>
    have hrest := ih (placing.place item list)
    rw [count_place] at hrest
    change ((placing.placeAll rest (placing.place item list)).map placing.key).count key ≤ _
    split at hrest <;> omega

-- ---------------------------------------------------------------------------
-- The entries with one key
-- ---------------------------------------------------------------------------

def withKey (key : κ) (list : List α) : List α :=
  list.filter fun entry => placing.key entry = key

theorem withKey_place (key : κ) (item : ι) (list : List α) :
    placing.withKey key (placing.place item list) =
      if placing.target item = key then placing.place item (placing.withKey key list)
      else placing.withKey key list := by
  induction list with
  | nil =>
    have hkey : placing.key (placing.revise item (placing.seed item)) = placing.target item :=
      placing.key_revise item _ rfl
    by_cases htarget : placing.target item = key <;> simp [place, withKey, hkey, htarget]
  | cons entry rest ih =>
    unfold withKey at ih ⊢
    rw [place]
    split
    · next hentry =>
      have hkey := placing.key_revise item entry hentry
      by_cases htarget : placing.target item = key <;> simp [hentry, hkey, htarget, place]
    · next hentry =>
      by_cases htarget : placing.target item = key
      · simp [htarget ▸ hentry, ih, htarget]
      · by_cases hown : placing.key entry = key <;> simp [hown, ih, htarget]

/-- Entries with one key are a list of their own, and the items for that key are placed in it. -/
theorem withKey_placeAll (key : κ) (items : List ι) (list : List α) :
    placing.withKey key (placing.placeAll items list) =
      placing.placeAll (placing.itemsFor key items) (placing.withKey key list) := by
  induction items generalizing list with
  | nil => rfl
  | cons item rest ih =>
    change placing.withKey key (placing.placeAll rest (placing.place item list)) = _
    rw [ih, withKey_place]
    by_cases htarget : placing.target item = key <;> simp [itemsFor, htarget, placeAll]

theorem withKey_placeAll_of_last {key : κ} {items : List ι} {last : ι}
    (hlast : (placing.itemsFor key items).getLast? = some last) (list : List α) :
    ∃ entry, placing.withKey key (placing.placeAll items list) =
      placing.revise last entry :: (placing.withKey key list).tail := by
  obtain ⟨earlier, hitems⟩ := List.getLast?_eq_some_iff.mp hlast
  have hkeys : ∀ item ∈ placing.itemsFor key items, placing.target item = key :=
    fun item hm => of_decide_eq_true (List.mem_filter.mp hm).2
  rw [withKey_placeAll]
  -- All items go to the head, so none is left for the other entries.
  have hhead : ∀ entry rest, placing.key entry = key →
      placing.placeAll (placing.itemsFor key items) (entry :: rest) =
        placing.revise last entry :: rest := by
    rintro entry rest rfl
    have hpast : placing.itemsPast (placing.key entry)
        (placing.itemsFor (placing.key entry) items) = [] :=
      List.filter_eq_nil_iff.mpr fun item hm => by simp [hkeys item hm]
    have hfor : placing.itemsFor (placing.key entry)
        (placing.itemsFor (placing.key entry) items) = earlier ++ [last] :=
      (List.filter_eq_self.mpr fun item hm => by simp [hkeys item hm]).trans hitems
    rw [placeAll_cons, hpast, hfor, settle_snoc]
    rfl
  cases hlist : placing.withKey key list with
  | nil =>
    cases hitem : placing.itemsFor key items with
    | nil => simp [hitem] at hitems
    | cons item rest =>
      rw [hitem] at hhead hkeys
      rw [placeAll_seed, hhead _ [] (hkeys item List.mem_cons_self)]
      exact ⟨_, rfl⟩
  | cons entry rest =>
    refine ⟨entry, hhead entry rest ?_⟩
    have hm : entry ∈ placing.withKey key list := by simp [hlist]
    exact of_decide_eq_true (List.mem_filter.mp hm).2

-- ---------------------------------------------------------------------------
-- A list that may be absent
-- ---------------------------------------------------------------------------

variable {placing} {step : ι → List α → List α}

theorem getD_updates (h : ∀ item list, step item list = placing.place item list) (items : List ι)
    (list : Option (List α)) :
    (updates step items list).getD [] = placing.placeAll items (list.getD []) := by
  obtain rfl : step = placing.place := funext fun item => funext (h item)
  cases items with
  | nil => rfl
  | cons item rest => rfl

theorem updates_eq_placeAll (h : ∀ item list, step item list = placing.place item list)
    {items : List ι} (hne : items ≠ []) (list : Option (List α)) :
    updates step items list = some (placing.placeAll items (list.getD [])) := by
  rw [← getD_updates h]
  cases items with
  | nil => exact absurd rfl hne
  | cons item rest => rfl

theorem updates_updates (h : ∀ item list, step item list = placing.place item list)
    (items : List ι) (list : Option (List α)) :
    updates step items (updates step items list) = updates step items list := by
  cases items with
  | nil => rfl
  | cons item rest =>
    have hpresent := updates_eq_placeAll h (List.cons_ne_nil item rest)
    rw [hpresent, hpresent, Option.getD_some, placeAll_placeAll]

end

end Placing

-- ---------------------------------------------------------------------------
-- Ports and variables
-- ---------------------------------------------------------------------------

namespace HostPort

open Kube

def portPlacing : Placing Binding ContainerPort (Option String) where
  key port := port.name
  seed binding := binding.port
  revise binding port := { port with hostPort := some binding.hostPort }
  key_revise _ _ _ := rfl
  revise_revise _ _ _ := rfl

def variablePlacing : Placing EnvVar EnvVar String where
  key assigned := assigned.name
  seed assigned := { name := assigned.name }
  revise assigned _ := assigned
  key_revise _ _ h := h.symm
  revise_revise _ _ _ := rfl

theorem bindIn_eq_place (binding : Binding) (ports : List ContainerPort) :
    binding.bindIn ports = portPlacing.place binding ports := by
  induction ports with
  | nil => rfl
  | cons port rest ih => rw [Binding.bindIn, ih]; rfl

theorem setVariable_eq_place (assigned : EnvVar) (env : List EnvVar) :
    setVariable assigned env = variablePlacing.place assigned env := by
  induction env with
  | nil => rfl
  | cons head rest ih => rw [setVariable, ih]; rfl

end HostPort

end OrdinalAdmission
