/-!
# Finite maps in key order

A map is the list of its entries with strictly increasing keys, so two maps with the same entries
are equal and walking one gives the order in which it is written. `get?_insert`, `get?_erase` and
`ext_get?` are all that is needed to reason about one; `mem_toList_iff` ties entries to look-ups.
Of a map built from a list `get?_ofList_append` says that the last entry of a key counts.
-/

namespace OrdinalAdmission

/-- A finite map whose entries stand in increasing order of their keys. -/
structure SortedMap (κ : Type) [Ord κ] (α : Type) where
  toList : List (κ × α)
  increasing : toList.Pairwise fun a b => compare a.1 b.1 = .lt

namespace SortedMap

variable {κ : Type} [Ord κ] {α : Type}

instance [DecidableEq κ] [DecidableEq α] : DecidableEq (SortedMap κ α) := fun a b =>
  decidable_of_iff (a.toList = b.toList)
    ⟨fun h => by cases a; cases b; cases h; rfl, fun h => h ▸ rfl⟩

def empty : SortedMap κ α := ⟨[], .nil⟩

instance : EmptyCollection (SortedMap κ α) := ⟨empty⟩

instance : Inhabited (SortedMap κ α) := ⟨empty⟩

def size (m : SortedMap κ α) : Nat := m.toList.length

def isEmpty (m : SortedMap κ α) : Bool := m.toList.isEmpty

def keys (m : SortedMap κ α) : List κ := m.toList.map Prod.fst

def find (k : κ) : List (κ × α) → Option α
  | [] => none
  | (key, value) :: rest => if compare k key = .eq then some value else find k rest

def get? (m : SortedMap κ α) (k : κ) : Option α := find k m.toList

def place (k : κ) (v : α) : List (κ × α) → List (κ × α)
  | [] => [(k, v)]
  | (key, value) :: rest =>
    match compare k key with
    | .lt => (k, v) :: (key, value) :: rest
    | .eq => (k, v) :: rest
    | .gt => (key, value) :: place k v rest

theorem mem_place {k : κ} {v : α} {entries : List (κ × α)} {e : κ × α}
    (h : e ∈ place k v entries) : e = (k, v) ∨ e ∈ entries := by
  induction entries with
  | nil => simpa [place] using h
  | cons head rest ih =>
    rw [place] at h
    split at h
    · simpa using h
    · rcases List.mem_cons.mp h with h | h
      · exact .inl h
      · exact .inr (List.mem_cons_of_mem _ h)
    · rcases List.mem_cons.mp h with h | h
      · exact .inr (h ▸ List.mem_cons_self)
      · exact (ih h).imp id (List.mem_cons_of_mem _)

theorem pairwise_place [Std.TransOrd κ] [Std.LawfulEqOrd κ] {k : κ} {v : α} {entries : List (κ × α)}
    (h : entries.Pairwise fun a b => compare a.1 b.1 = .lt) :
    (place k v entries).Pairwise fun a b => compare a.1 b.1 = .lt := by
  induction entries with
  | nil => simp [place]
  | cons head rest ih =>
    obtain ⟨hlt, hrest⟩ := List.pairwise_cons.mp h
    rw [place]
    split
    · next hc =>
      refine List.pairwise_cons.mpr ⟨fun e he => ?_, h⟩
      rcases List.mem_cons.mp he with rfl | he
      · exact hc
      · exact Std.TransCmp.lt_trans hc (hlt e he)
    · next hc =>
      obtain rfl := Std.LawfulEqCmp.eq_of_compare hc
      exact List.pairwise_cons.mpr ⟨hlt, hrest⟩
    · next hc =>
      refine List.pairwise_cons.mpr ⟨fun e he => ?_, ih hrest⟩
      rcases mem_place he with rfl | he
      · exact Std.OrientedCmp.lt_of_gt hc
      · exact hlt e he

def insert [Std.TransOrd κ] [Std.LawfulEqOrd κ] (m : SortedMap κ α) (k : κ) (v : α) :
    SortedMap κ α :=
  ⟨place k v m.toList, pairwise_place m.increasing⟩

def erase (m : SortedMap κ α) (k : κ) : SortedMap κ α :=
  ⟨m.toList.filter fun e => compare k e.1 != .eq, m.increasing.filter _⟩

/-- The map that inserting `entries` from left to right builds, so the last of equal keys stays. -/
def ofList [Std.TransOrd κ] [Std.LawfulEqOrd κ] (entries : List (κ × α)) : SortedMap κ α :=
  entries.foldl (fun m e => m.insert e.1 e.2) empty

-- ---------------------------------------------------------------------------
-- Look-ups
-- ---------------------------------------------------------------------------

@[simp] theorem get?_empty (k : κ) : (empty : SortedMap κ α).get? k = none := rfl

theorem find_place [Std.TransOrd κ] [Std.LawfulEqOrd κ] [DecidableEq κ] (k key : κ) (v : α)
    (entries : List (κ × α)) :
    find key (place k v entries) = if key = k then some v else find key entries := by
  induction entries with
  | nil => simp [place, find, Std.LawfulEqCmp.compare_eq_iff_eq]
  | cons head rest ih =>
    obtain ⟨k', v'⟩ := head
    rw [place]
    split
    · simp [find, Std.LawfulEqCmp.compare_eq_iff_eq]
    · next hc =>
      obtain rfl := Std.LawfulEqCmp.eq_of_compare hc
      by_cases h : key = k <;> simp [find, Std.LawfulEqCmp.compare_eq_iff_eq, h]
    · next hc =>
      have hne : k ≠ k' := fun h => by simp [h] at hc
      by_cases h : key = k
      · subst h; simp [find, Std.LawfulEqCmp.compare_eq_iff_eq, hne, ih]
      · simp [find, ih, h]

theorem get?_insert [Std.TransOrd κ] [Std.LawfulEqOrd κ] [DecidableEq κ] (m : SortedMap κ α)
    (k key : κ) (v : α) : (m.insert k v).get? key = if key = k then some v else m.get? key :=
  find_place k key v m.toList

theorem find_filter [Std.TransOrd κ] [Std.LawfulEqOrd κ] [DecidableEq κ] (k key : κ)
    (entries : List (κ × α)) :
    find key (entries.filter fun e => compare k e.1 != .eq)
      = if key = k then none else find key entries := by
  induction entries with
  | nil => simp [find]
  | cons head rest ih =>
    obtain ⟨k', v'⟩ := head
    by_cases hk : k = k'
    · subst hk
      by_cases h : key = k
      · subst h; simpa using ih
      · simp [find, Std.LawfulEqCmp.compare_eq_iff_eq, ih, h]
    · by_cases h : key = k
      · subst h
        simp [find, Std.LawfulEqCmp.compare_eq_iff_eq, ih, hk]
      · simp [find, Std.LawfulEqCmp.compare_eq_iff_eq, ih, hk, h]

theorem get?_erase [Std.TransOrd κ] [Std.LawfulEqOrd κ] [DecidableEq κ] (m : SortedMap κ α)
    (k key : κ) : (m.erase k).get? key = if key = k then none else m.get? key :=
  find_filter k key m.toList

theorem find_eq_some_iff [Std.TransOrd κ] [Std.LawfulEqOrd κ] {k : κ} {v : α}
    {entries : List (κ × α)} (h : entries.Pairwise fun a b => compare a.1 b.1 = .lt) :
    find k entries = some v ↔ (k, v) ∈ entries := by
  induction entries with
  | nil => simp [find]
  | cons head rest ih =>
    obtain ⟨hlt, hrest⟩ := List.pairwise_cons.mp h
    obtain ⟨k', v'⟩ := head
    by_cases hk : k = k'
    · subst hk
      have hn : (k, v) ∉ rest := fun hm => by simpa using hlt _ hm
      simp [find, hn, eq_comm]
    · simp [find, Std.LawfulEqCmp.compare_eq_iff_eq, hk, ih hrest]

theorem mem_toList_iff [Std.TransOrd κ] [Std.LawfulEqOrd κ] {m : SortedMap κ α} {k : κ} {v : α} :
    (k, v) ∈ m.toList ↔ m.get? k = some v :=
  (find_eq_some_iff m.increasing).symm

theorem eq_of_mem_iff [Std.TransOrd κ] [Std.LawfulEqOrd κ] {xs ys : List (κ × α)}
    (hx : xs.Pairwise fun a b => compare a.1 b.1 = .lt)
    (hy : ys.Pairwise fun a b => compare a.1 b.1 = .lt) (h : ∀ e, e ∈ xs ↔ e ∈ ys) : xs = ys := by
  induction xs generalizing ys with
  | nil =>
    cases ys with
    | nil => rfl
    | cons y ys => exact absurd ((h y).mpr List.mem_cons_self) (by simp)
  | cons x xs ih =>
    cases ys with
    | nil => exact absurd ((h x).mp List.mem_cons_self) (by simp)
    | cons y ys =>
      obtain ⟨hxlt, hxs⟩ := List.pairwise_cons.mp hx
      obtain ⟨hylt, hys⟩ := List.pairwise_cons.mp hy
      have hxy : x = y := by
        rcases List.mem_cons.mp ((h x).mp List.mem_cons_self) with hxy | hxm
        · exact hxy
        rcases List.mem_cons.mp ((h y).mpr List.mem_cons_self) with hyx | hym
        · exact hyx.symm
        have := Std.TransCmp.lt_trans (hxlt y hym) (hylt x hxm)
        simp at this
      subst hxy
      congr 1
      refine ih hxs hys fun e => ⟨fun he => ?_, fun he => ?_⟩
      · rcases List.mem_cons.mp ((h e).mp (List.mem_cons_of_mem _ he)) with rfl | hm
        · have := hxlt e he; simp at this
        · exact hm
      · rcases List.mem_cons.mp ((h e).mpr (List.mem_cons_of_mem _ he)) with rfl | hm
        · have := hylt e he; simp at this
        · exact hm

theorem ext_get? [Std.TransOrd κ] [Std.LawfulEqOrd κ] {a b : SortedMap κ α}
    (h : ∀ k, a.get? k = b.get? k) : a = b := by
  have : a.toList = b.toList := eq_of_mem_iff a.increasing b.increasing fun e => by
    obtain ⟨k, v⟩ := e
    rw [mem_toList_iff, mem_toList_iff, h]
  cases a; cases b; cases this; rfl

theorem filter_toList_congr [Std.TransOrd κ] [Std.LawfulEqOrd κ]
    {a b : SortedMap κ α} {p : κ → Bool} (h : ∀ k, p k = true → a.get? k = b.get? k) :
    a.toList.filter (fun e => p e.1) = b.toList.filter (fun e => p e.1) := by
  refine eq_of_mem_iff (a.increasing.filter _) (b.increasing.filter _) fun (k, v) => ?_
  simp only [List.mem_filter, mem_toList_iff]
  refine and_congr_left fun hk => ?_
  rw [h k hk]

-- ---------------------------------------------------------------------------
-- Maps from lists
-- ---------------------------------------------------------------------------

section
variable [Std.TransOrd κ] [Std.LawfulEqOrd κ] [DecidableEq κ] {entries : List (κ × α)} {key : κ}

theorem get?_foldl_insert (m : SortedMap κ α) (entries : List (κ × α)) (key : κ) :
    (entries.foldl (fun m e => m.insert e.1 e.2) m).get? key =
      ((ofList entries).get? key).or (m.get? key) := by
  induction entries generalizing m with
  | nil => simp [ofList]
  | cons entry rest ih =>
    rw [ofList, List.foldl_cons, List.foldl_cons, ih, ih (empty.insert entry.1 entry.2),
      get?_insert, get?_insert]
    split <;> simp

theorem get?_ofList_append (earlier later : List (κ × α)) (key : κ) :
    (ofList (earlier ++ later)).get? key =
      ((ofList later).get? key).or ((ofList earlier).get? key) := by
  rw [ofList, List.foldl_append, get?_foldl_insert, ← ofList]

theorem get?_ofList_cons (entry : κ × α) (rest : List (κ × α)) (key : κ) :
    (ofList (entry :: rest)).get? key =
      ((ofList rest).get? key).or (if key = entry.1 then some entry.2 else none) := by
  rw [← List.singleton_append, get?_ofList_append]
  congr 1
  exact get?_insert empty entry.1 key entry.2

theorem get?_ofList_eq_none_iff :
    (ofList entries).get? key = none ↔ key ∉ entries.map Prod.fst := by
  induction entries with
  | nil => simp [ofList]
  | cons entry rest ih =>
    rw [get?_ofList_cons, Option.or_eq_none_iff, ih, List.map_cons, List.mem_cons, not_or, and_comm]
    simp

/-- Where no key stands twice every entry counts. -/
theorem get?_ofList_eq_some_iff (h : (entries.map Prod.fst).Nodup) {value : α} :
    (ofList entries).get? key = some value ↔ (key, value) ∈ entries := by
  induction entries with
  | nil => simp [ofList]
  | cons entry rest ih =>
    obtain ⟨own, ownValue⟩ := entry
    obtain ⟨hnot, hrest⟩ := List.nodup_cons.mp h
    rw [get?_ofList_cons, List.mem_cons, Prod.mk.injEq]
    by_cases hkey : key = own
    · subst hkey
      have hgone : (key, value) ∉ rest := fun hm => hnot (List.mem_map.mpr ⟨_, hm, rfl⟩)
      simp [get?_ofList_eq_none_iff.mpr hnot, hgone, eq_comm]
    · simp [hkey, ih hrest]

theorem ofList_perm {other : List (κ × α)} (hperm : entries.Perm other)
    (hnodup : (entries.map Prod.fst).Nodup) : ofList entries = ofList other := by
  refine ext_get? fun key => Option.ext fun value => ?_
  have hnodup' := (hperm.map Prod.fst).nodup_iff.mp hnodup
  rw [get?_ofList_eq_some_iff hnodup, get?_ofList_eq_some_iff hnodup', hperm.mem_iff]

theorem get?_ofList (entries : List (κ × α)) (key : κ) :
    (ofList entries).get? key = (entries.filter (·.1 = key)).getLast?.map (·.2) := by
  induction entries with
  | nil => rfl
  | cons entry rest ih =>
    rw [get?_ofList_cons, ih, List.filter_cons]
    by_cases hkey : entry.1 = key
    · cases hlast : (rest.filter (·.1 = key)).getLast? <;> simp [hkey, hlast, List.getLast?_cons]
    · simp [hkey, Ne.symm hkey]

/-- Entries in another order make the same map, whatever comes before and after, provided that none
of them has the key of another. -/
theorem ofList_reorder {block reordered : List (κ × α)} (hperm : block.Perm reordered)
    (hnodup : (block.map Prod.fst).Nodup) (earlier later : List (κ × α)) :
    ofList (earlier ++ block ++ later) = ofList (earlier ++ reordered ++ later) := by
  refine ext_get? fun key => ?_
  simp only [get?_ofList_append, ofList_perm hperm hnodup]

end

end SortedMap

abbrev TextMap := SortedMap String String

end OrdinalAdmission
