/-!
# Decimal numerals

Nonempty runs of ASCII digits, the number they denote without bound, and the 32-bit number when it
fits. `value_digits` and `isNumeral_digits` say that writing a number and reading it agree.
-/

namespace OrdinalAdmission.Decimal

/-- A nonempty run of ASCII digits; leading zeros are allowed. -/
def isNumeral (cs : List Char) : Bool :=
  !cs.isEmpty && cs.all Char.isDigit

def value (cs : List Char) : Nat :=
  Nat.ofDigitChars 10 cs 0

def digits (n : Nat) : List Char :=
  Nat.toDigits 10 n

def text (n : Nat) : String :=
  String.ofList (digits n)

def intText : Int → String
  | .ofNat n => text n
  | .negSucc n => "-" ++ text (n + 1)

def toUInt32? (cs : List Char) : Option UInt32 :=
  if value cs < UInt32.size then some (UInt32.ofNat (value cs)) else none

@[simp] theorem value_digits (n : Nat) : value (digits n) = n := by
  simp [value, digits]

theorem isNumeral_digits (n : Nat) : isNumeral (digits n) = true := by
  simp only [isNumeral, digits, Bool.and_eq_true, Bool.not_eq_true', List.isEmpty_eq_false_iff,
    List.all_eq_true]
  exact ⟨Nat.toDigits_ne_nil, fun c hc => Nat.isDigit_of_mem_toDigits (by decide) (by decide) hc⟩

theorem isDigit_of_mem {cs : List Char} (h : isNumeral cs = true) : ∀ c ∈ cs, c.isDigit = true := by
  simp only [isNumeral, Bool.and_eq_true, List.all_eq_true] at h
  exact h.2

theorem ne_nil_of_isNumeral {cs : List Char} (h : isNumeral cs = true) : cs ≠ [] := by
  rintro rfl
  cases h

theorem hyphen_not_mem {cs : List Char} (h : isNumeral cs = true) : '-' ∉ cs :=
  fun hm => absurd (isDigit_of_mem h _ hm) (by decide)

theorem text_inj {m n : Nat} : text m = text n ↔ m = n := by
  constructor
  · intro h
    have hvalue := congrArg (fun written : String => value written.toList) h
    simpa [text] using hvalue
  · exact congrArg text

theorem intText_inj_of_nonneg {a b : Int} (ha : 0 ≤ a) (hb : 0 ≤ b) :
    intText a = intText b ↔ a = b := by
  obtain ⟨m, rfl⟩ := Int.eq_ofNat_of_zero_le ha
  obtain ⟨n, rfl⟩ := Int.eq_ofNat_of_zero_le hb
  exact text_inj.trans Int.ofNat_inj.symm

theorem toUInt32?_eq_some_iff {cs : List Char} {n : UInt32} :
    toUInt32? cs = some n ↔ value cs = n.toNat := by
  unfold toUInt32?
  split
  · next h =>
    simp only [Option.some.injEq, ← UInt32.toNat_inj]
    rw [UInt32.toNat_ofNat_of_lt' h]
  · next h =>
    simp only [reduceCtorEq, false_iff]
    intro he
    exact h (he ▸ n.toNat_lt_size)

theorem toUInt32?_eq_none_iff {cs : List Char} :
    toUInt32? cs = none ↔ UInt32.size ≤ value cs := by
  unfold toUInt32?
  split <;> simp_all

end OrdinalAdmission.Decimal
