import Mathlib.Data.List.Forall2

/-!
# Steps that may fail

Work in several steps gives a result where every step does, and else fails with the error of a step
(`bind_eq_ok_iff`, `bind_eq_error_iff`). Over a list the error is that of the first item that has
one (`mapM_eq_error_iff`); `First` says of a list which item is the first with a property.
-/

namespace OrdinalAdmission

-- ---------------------------------------------------------------------------
-- Two steps
-- ---------------------------------------------------------------------------

section
variable {ε ε' α β : Type}

theorem bind_eq_ok_iff {x : Except ε α} {f : α → Except ε β} {b : β} :
    x >>= f = .ok b ↔ ∃ a, x = .ok a ∧ f a = .ok b := by
  cases x <;> simp [bind, Except.bind]

theorem bind_eq_error_iff {x : Except ε α} {f : α → Except ε β} {e : ε} :
    x >>= f = .error e ↔ x = .error e ∨ ∃ a, x = .ok a ∧ f a = .error e := by
  cases x <;> simp [bind, Except.bind]

theorem map_eq_error_iff {f : α → β} {x : Except ε α} {e : ε} :
    x.map f = .error e ↔ x = .error e := by
  cases x <;> simp [Except.map]

theorem mapError_eq_ok_iff {f : ε → ε'} {x : Except ε α} {a : α} :
    x.mapError f = .ok a ↔ x = .ok a := by
  constructor
  · intro h
    cases x with
    | error e => cases h
    | ok a' =>
      cases h
      rfl
  · rintro rfl
    rfl

theorem mapError_eq_error_iff {f : ε → ε'} {x : Except ε α} {e' : ε'} :
    x.mapError f = .error e' ↔ ∃ e, x = .error e ∧ f e = e' := by
  cases x <;> simp [Except.mapError]

theorem toOption_eq_some_iff {x : Except ε α} {a : α} : x.toOption = some a ↔ x = .ok a := by
  cases x <;> simp [Except.toOption]

end

-- ---------------------------------------------------------------------------
-- The first of a list
-- ---------------------------------------------------------------------------

/-- The first item of a list with a property. -/
inductive First {α : Type} (P : α → Prop) : List α → α → Prop where
  | head {x : α} {rest : List α} : P x → First P (x :: rest) x
  | tail {x y : α} {rest : List α} : ¬ P x → First P rest y → First P (x :: rest) y

section
variable {α : Type} {P : α → Prop} {x y : α} {xs : List α}

theorem First.mem (h : First P xs x) : x ∈ xs ∧ P x := by
  induction h with
  | head hx => exact ⟨List.mem_cons_self, hx⟩
  | tail _ _ ih => exact ⟨List.mem_cons_of_mem _ ih.1, ih.2⟩

theorem First.exists_split (h : First P xs x) :
    ∃ before after, xs = before ++ x :: after ∧ ∀ y ∈ before, ¬ P y := by
  induction h with
  | head _ => exact ⟨[], _, rfl, by simp⟩
  | @tail first _ _ hfirst _ ih =>
    obtain ⟨before, after, rfl, hbefore⟩ := ih
    exact ⟨first :: before, after, rfl, List.forall_mem_cons.mpr ⟨hfirst, hbefore⟩⟩

theorem exists_first : (∃ x, First P xs x) ↔ ∃ x ∈ xs, P x := by
  constructor
  · rintro ⟨x, h⟩
    exact ⟨x, h.mem⟩
  · rintro ⟨x, hm, hx⟩
    induction xs with
    | nil => cases hm
    | cons y rest ih =>
      by_cases hy : P y
      · exact ⟨y, .head hy⟩
      · rcases List.mem_cons.mp hm with rfl | hm
        · exact absurd hx hy
        · obtain ⟨z, hz⟩ := ih hm
          exact ⟨z, .tail hy hz⟩

theorem not_first_nil : ¬ First P [] x := nofun

theorem first_cons_of_holds (hx : P x) : First P (x :: xs) y ↔ y = x := by
  constructor
  · intro h
    cases h with
    | head => rfl
    | tail hn => exact absurd hx hn
  · rintro rfl
    exact .head hx

theorem first_cons_of_not (hx : ¬ P x) : First P (x :: xs) y ↔ First P xs y := by
  constructor
  · intro h
    cases h with
    | head hp => exact absurd hp hx
    | tail _ h => exact h
  · exact .tail hx

end

-- ---------------------------------------------------------------------------
-- Work on a list that stops at the first error
-- ---------------------------------------------------------------------------

section
variable {ε α β : Type} {f : α → Except ε β} {items : List α}

theorem mapM_eq_ok_iff {results : List β} :
    items.mapM f = .ok results ↔
      List.Forall₂ (fun item result => f item = .ok result) items results := by
  induction items generalizing results with
  | nil => simp [pure, Except.pure, eq_comm]
  | cons item rest ih =>
    rw [List.mapM_cons, List.forall₂_cons_left_iff]
    simp only [bind_eq_ok_iff, ih]
    constructor
    · rintro ⟨result, hitem, more, hrest, hresults⟩
      obtain rfl := Except.ok.inj hresults
      exact ⟨result, more, hitem, hrest, rfl⟩
    · rintro ⟨result, more, hitem, hrest, rfl⟩
      exact ⟨result, hitem, more, hrest, rfl⟩

theorem mapM_eq_error_iff {error : ε} :
    items.mapM f = .error error ↔
      ∃ item, First (fun item => ∃ error, f item = .error error) items item ∧
        f item = .error error := by
  induction items with
  | nil => simp [pure, Except.pure, not_first_nil]
  | cons item rest ih =>
    rw [List.mapM_cons, bind_eq_error_iff]
    cases hitem : f item with
    | error found =>
      have hfirst : ∀ other,
          First (fun item => ∃ error, f item = .error error) (item :: rest) other ↔ other = item :=
        fun _ => first_cons_of_holds ⟨found, hitem⟩
      simp [hfirst, hitem]
    | ok result =>
      have hpasses : ¬ ∃ error, f item = .error error := by simp [hitem]
      have hfirst : ∀ other,
          First (fun item => ∃ error, f item = .error error) (item :: rest) other ↔
            First (fun item => ∃ error, f item = .error error) rest other :=
        fun _ => first_cons_of_not hpasses
      simp only [hfirst, ← ih]
      cases rest.mapM f <;> simp [bind, Except.bind, pure, Except.pure]

end

end OrdinalAdmission
