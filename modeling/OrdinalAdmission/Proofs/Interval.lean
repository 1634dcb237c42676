import OrdinalAdmission.Qualifier

/-!
# The interval that a qualifier says

A qualifier text in one of the five forms says an interval of numbers, of whatever size (`Spells`).
Reading it brings the bounds to 32 bits, in two ways: an upper bound that does not fit is lowered to
the highest ordinal, and a lower bound that does not fit makes the text stand for none. An ordinal
cannot tell the difference: it is let in exactly where it lies in the interval
(`qualifies_iff_spelled`).
-/

namespace OrdinalAdmission.Qualifier

open Decimal

-- ---------------------------------------------------------------------------
-- What texts say
-- ---------------------------------------------------------------------------

structure Interval where
  low : Nat
  high : Option Nat

def Interval.Contains (interval : Interval) (n : Nat) : Prop :=
  interval.low ≤ n ∧ ∀ high ∈ interval.high, n ≤ high

inductive Spells : List Char → Interval → Prop where
  | all : Spells [] ⟨0, none⟩
  | exact {numeral : List Char} (h : isNumeral numeral = true) :
      Spells numeral ⟨value numeral, some (value numeral)⟩
  | range {low high : List Char} (hlow : isNumeral low = true) (hhigh : isNumeral high = true) :
      Spells (low ++ '-' :: high) ⟨value low, some (value high)⟩
  | atLeast {low : List Char} (hlow : isNumeral low = true) :
      Spells (low ++ ['-']) ⟨value low, none⟩
  | atMost {high : List Char} (hhigh : isNumeral high = true) :
      Spells ('-' :: high) ⟨0, some (value high)⟩

section
variable {text low high numeral : List Char} {interval : Interval} {ordinal : UInt32}

theorem Spells.chars (h : Spells text interval) : ∀ c ∈ text, c.isDigit = true ∨ c = '-' := by
  have digits : ∀ numeral, isNumeral numeral = true → ∀ c ∈ numeral, c.isDigit = true ∨ c = '-' :=
    fun numeral hn c hc => .inl (isDigit_of_mem hn c hc)
  intro c hc
  cases h with
  | all => cases hc
  | exact hn => exact digits _ hn c hc
  | range hlow hhigh =>
    rcases List.mem_append.mp hc with hc | hc
    · exact digits _ hlow c hc
    · rcases List.mem_cons.mp hc with rfl | hc
      · exact .inr rfl
      · exact digits _ hhigh c hc
  | atLeast hlow =>
    rcases List.mem_append.mp hc with hc | hc
    · exact digits _ hlow c hc
    · exact .inr (List.mem_singleton.mp hc)
  | atMost hhigh =>
    rcases List.mem_cons.mp hc with rfl | hc
    · exact .inr rfl
    · exact digits _ hhigh c hc

-- ---------------------------------------------------------------------------
-- How the forms are read
-- ---------------------------------------------------------------------------

/-- What is read where everything depends on a number: nothing is let in if it does not fit. -/
def ofLower (numeral : List Char) (f : UInt32 → Qualifier) : Qualifier :=
  (toUInt32? numeral).elim never f

theorem ofChars_of_cut (hlow : '-' ∉ low) : ofChars (low ++ '-' :: high) = ofBounds low high := by
  rw [ofChars, Text.cutFirst?_eq_some_iff.mpr ⟨rfl, hlow⟩]

theorem ofChars_numeral (h : isNumeral numeral = true) :
    ofChars numeral = ofLower numeral .exact := by
  rw [ofChars, Text.cutFirst?_eq_none_iff.mpr (hyphen_not_mem h)]
  simp [h, ne_nil_of_isNumeral h, ofLower]

theorem ofChars_range (hlow : isNumeral low = true) (hhigh : isNumeral high = true) :
    ofChars (low ++ '-' :: high) = ofLower low fun min => .range min (upperBound high) := by
  rw [ofChars_of_cut (hyphen_not_mem hlow)]
  simp [ofBounds, hlow, hhigh, ne_nil_of_isNumeral hlow, ne_nil_of_isNumeral hhigh, ofLower]

theorem ofChars_atLeast (hlow : isNumeral low = true) :
    ofChars (low ++ ['-']) = ofLower low .atLeast := by
  rw [ofChars_of_cut (hyphen_not_mem hlow)]
  simp [ofBounds, hlow, ofLower]

theorem ofChars_atMost (hhigh : isNumeral high = true) :
    ofChars ('-' :: high) = .atMost (upperBound high) := by
  rw [← List.nil_append ('-' :: high), ofChars_of_cut List.not_mem_nil]
  simp [ofBounds, hhigh, ne_nil_of_isNumeral hhigh]

theorem exists_spells_of_ofBounds_ne_never (h : ofBounds low high ≠ .never) :
    ∃ interval, Spells (low ++ '-' :: high) interval := by
  unfold ofBounds at h
  split at h
  · next hempty =>
    obtain rfl := List.isEmpty_iff.mp hempty
    split at h
    · next hlow => exact ⟨_, .atLeast hlow⟩
    · exact absurd rfl h
  · split at h
    · exact absurd rfl h
    · next hhigh =>
      have hhigh : isNumeral high = true := by simpa using hhigh
      split at h
      · next hempty =>
        obtain rfl := List.isEmpty_iff.mp hempty
        exact ⟨_, .atMost hhigh⟩
      · split at h
        · next hlow => exact ⟨_, .range hlow hhigh⟩
        · exact absurd rfl h

theorem exists_spells_of_ne_never (h : ofChars text ≠ .never) : ∃ interval, Spells text interval := by
  unfold ofChars at h
  split at h
  · next low high hcut =>
    obtain ⟨rfl, -⟩ := Text.cutFirst?_eq_some_iff.mp hcut
    exact exists_spells_of_ofBounds_ne_never h
  · split at h
    · next hempty =>
      obtain rfl := List.isEmpty_iff.mp hempty
      exact ⟨_, .all⟩
    · split at h
      · next hnumeral => exact ⟨_, .exact hnumeral⟩
      · exact absurd rfl h

-- ---------------------------------------------------------------------------
-- Bounds that do not fit
-- ---------------------------------------------------------------------------

/-- An upper bound that does not fit is lowered to the highest ordinal. -/
theorem toNat_upperBound : (upperBound numeral).toNat = min top.toNat (value numeral) := by
  have htop : (UInt32.size : Nat) = top.toNat + 1 := rfl
  rw [upperBound]
  cases h : toUInt32? numeral with
  | some max =>
    have hvalue := toUInt32?_eq_some_iff.mp h
    have hmax := max.toNat_lt_size
    rw [Option.getD_some]
    omega
  | none =>
    have hbig := toUInt32?_eq_none_iff.mp h
    rw [Option.getD_none]
    omega

theorem le_upperBound_iff : ordinal ≤ upperBound high ↔ ordinal.toNat ≤ value high := by
  have hmax := ordinal.toNat_lt_size
  have htop : (UInt32.size : Nat) = top.toNat + 1 := rfl
  rw [UInt32.le_iff_toNat_le, toNat_upperBound]
  omega

theorem admits_ofLower_iff {f : UInt32 → Qualifier} {P : Prop}
    (h : ∀ min : UInt32, value numeral = min.toNat →
      ((f min).admits ordinal = true ↔ value numeral ≤ ordinal.toNat ∧ P)) :
    (ofLower numeral f).admits ordinal = true ↔ value numeral ≤ ordinal.toNat ∧ P := by
  unfold ofLower
  cases hread : toUInt32? numeral with
  | some min => exact h min (toUInt32?_eq_some_iff.mp hread)
  | none =>
    have hbig := toUInt32?_eq_none_iff.mp hread
    have hmax := ordinal.toNat_lt_size
    simp only [Option.elim_none, admits, Bool.false_eq_true, false_iff]
    omega

theorem ofLower_eq_never_iff {f : UInt32 → Qualifier} (h : ∀ min, f min ≠ .never) :
    ofLower numeral f = .never ↔ UInt32.size ≤ value numeral := by
  rw [← toUInt32?_eq_none_iff, ofLower]
  cases toUInt32? numeral <;> simp [h]

-- ---------------------------------------------------------------------------
-- Texts and what they let in
-- ---------------------------------------------------------------------------

theorem Spells.admits_iff (h : Spells text interval) :
    (ofChars text).admits ordinal = true ↔ interval.Contains ordinal.toNat := by
  cases h with
  | all => simp [ofChars, Text.cutFirst?, admits, Interval.Contains]
  | exact hn =>
    rw [ofChars_numeral hn, Interval.Contains]
    refine admits_ofLower_iff fun n hvalue => ?_
    simp only [admits, beq_iff_eq, hvalue, ← UInt32.toNat_inj, Option.mem_def, Option.some.injEq,
      forall_eq']
    omega
  | range hlow hhigh =>
    rw [ofChars_range hlow hhigh, Interval.Contains]
    refine admits_ofLower_iff fun min hvalue => ?_
    simp only [admits, Bool.and_eq_true, decide_eq_true_eq, le_upperBound_iff]
    simp [UInt32.le_iff_toNat_le, hvalue]
  | atLeast hlow =>
    rw [ofChars_atLeast hlow, Interval.Contains]
    refine admits_ofLower_iff fun min hvalue => ?_
    simp [admits, UInt32.le_iff_toNat_le, hvalue]
  | atMost hhigh =>
    rw [ofChars_atMost hhigh, Interval.Contains]
    simp only [admits, decide_eq_true_eq, le_upperBound_iff]
    simp

theorem Spells.ofChars_eq_never_iff (h : Spells text interval) :
    ofChars text = .never ↔ UInt32.size ≤ interval.low := by
  cases h with
  | all => simp [ofChars, Text.cutFirst?]
  | exact hn =>
    rw [ofChars_numeral hn]
    exact ofLower_eq_never_iff (by simp)
  | range hlow hhigh =>
    rw [ofChars_range hlow hhigh]
    exact ofLower_eq_never_iff (by simp)
  | atLeast hlow =>
    rw [ofChars_atLeast hlow]
    exact ofLower_eq_never_iff (by simp)
  | atMost hhigh => simp [ofChars_atMost hhigh]

end

/-- A qualifier lets in the ordinals of the interval that its text says, and none if it says none. It
is read as one that lets nothing in exactly where it says none or where the interval begins past the
highest ordinal. -/
theorem qualifies_iff_spelled (text : String) :
    (∀ ordinal, qualifies text ordinal = true ↔
      ∃ interval, Spells text.toList interval ∧ interval.Contains ordinal.toNat) ∧
    (parse text = .never ↔ (¬ ∃ interval, Spells text.toList interval) ∨
      ∃ interval, Spells text.toList interval ∧ 4294967295 < interval.low) := by
  constructor
  · intro ordinal
    constructor
    · intro h
      have hlive : ofChars text.toList ≠ .never := by
        intro hnever
        simp [qualifies, parse, hnever, admits] at h
      obtain ⟨interval, hspells⟩ := exists_spells_of_ne_never hlive
      exact ⟨interval, hspells, hspells.admits_iff.mp h⟩
    · rintro ⟨interval, hspells, hcontains⟩
      exact hspells.admits_iff.mpr hcontains
  · constructor
    · intro hnever
      by_cases hspelled : ∃ interval, Spells text.toList interval
      · obtain ⟨interval, hspells⟩ := hspelled
        exact .inr ⟨interval, hspells, hspells.ofChars_eq_never_iff.mp hnever⟩
      · exact .inl hspelled
    · rintro (hnone | ⟨interval, hspells, hlow⟩)
      · exact Classical.byContradiction fun hlive => hnone (exists_spells_of_ne_never hlive)
      · exact hspells.ofChars_eq_never_iff.mpr hlow

end OrdinalAdmission.Qualifier
