import OrdinalAdmission.Proofs.Interval

/-!
# The text that shows a qualifier

A qualifier is shown by the text of its form with numerals that have no leading zeros. No shown text
is taken for one of another form, so reading it gives the qualifier back (`parse_render`), except
that the star, which shows the qualifier for every ordinal, is itself read as none. A text and the
one that shows what it is read as differ in leading zeros and in upper bounds past the highest
ordinal alone, and no ordinal can tell them apart (`shown_text_canonical`).
-/

namespace OrdinalAdmission.Qualifier

open Decimal

-- ---------------------------------------------------------------------------
-- Numerals that were written
-- ---------------------------------------------------------------------------

section
variable (n : UInt32)

theorem toUInt32?_digits : toUInt32? (digits n.toNat) = some n :=
  toUInt32?_eq_some_iff.mpr (value_digits n.toNat)

theorem ofLower_digits (f : UInt32 → Qualifier) : ofLower (digits n.toNat) f = f n := by
  rw [ofLower, toUInt32?_digits, Option.elim_some]

theorem upperBound_digits : upperBound (digits n.toNat) = n := by
  rw [upperBound, toUInt32?_digits, Option.getD_some]

end

-- ---------------------------------------------------------------------------
-- Reading what is shown
-- ---------------------------------------------------------------------------

section
variable {min max n : UInt32}

theorem toList_render_range :
    (range min max).render.toList = digits min.toNat ++ '-' :: digits max.toNat := by
  simp [render, text]

theorem toList_render_exact : (exact n).render.toList = digits n.toNat := by
  simp [render, text]

theorem toList_render_atLeast : (atLeast min).render.toList = digits min.toNat ++ ['-'] := by
  simp [render, text]

theorem toList_render_atMost : (atMost max).render.toList = '-' :: digits max.toNat := by
  simp [render, text]

end

theorem parse_render {qualifier : Qualifier} (h : qualifier ≠ .all) :
    parse qualifier.render = qualifier := by
  have hdigits := isNumeral_digits
  cases qualifier with
  | all => exact absurd rfl h
  | range min max =>
    rw [parse, toList_render_range, ofChars_range (hdigits _) (hdigits _), ofLower_digits,
      upperBound_digits]
  | exact n => rw [parse, toList_render_exact, ofChars_numeral (hdigits _), ofLower_digits]
  | atLeast min => rw [parse, toList_render_atLeast, ofChars_atLeast (hdigits _), ofLower_digits]
  | atMost max => rw [parse, toList_render_atMost, ofChars_atMost (hdigits _), upperBound_digits]
  | never => decide

theorem render_eq_star_iff {qualifier : Qualifier} : qualifier.render = "*" ↔ qualifier = .all := by
  constructor
  · intro hstar
    by_cases hall : qualifier = .all
    · exact hall
    · have hread := parse_render hall
      rw [hstar, show parse "*" = .never by decide] at hread
      rw [← hread] at hstar
      exact absurd hstar (by decide)
  · rintro rfl
    rfl

theorem render_inj {first second : Qualifier} : first.render = second.render ↔ first = second := by
  constructor
  · intro h
    by_cases hfirst : first = .all
    · have hstar := render_eq_star_iff.mpr hfirst
      rw [hfirst, render_eq_star_iff.mp (h.symm.trans hstar)]
    · have hsecond : second ≠ .all := fun hall =>
        hfirst (render_eq_star_iff.mp (h.trans (render_eq_star_iff.mpr hall)))
      rw [← parse_render hfirst, h, parse_render hsecond]
  · exact congrArg render

-- ---------------------------------------------------------------------------
-- What the shown text says
-- ---------------------------------------------------------------------------

def Interval.capped (interval : Interval) : Interval :=
  { interval with high := interval.high.map (min top.toNat) }

section
variable {text low high numeral : List Char} {interval : Interval}

theorem exists_of_ofLower_ne_never {f : UInt32 → Qualifier} (h : ofLower numeral f ≠ .never) :
    ∃ n : UInt32, value numeral = n.toNat ∧ ofLower numeral f = f n := by
  unfold ofLower at h ⊢
  cases hread : toUInt32? numeral with
  | some n => exact ⟨n, toUInt32?_eq_some_iff.mp hread, rfl⟩
  | none =>
    rw [hread] at h
    exact absurd rfl h

/-- What is read from a text that says an interval is shown as this interval, as far as ordinals
go. -/
theorem Spells.render (h : Spells text interval) (hnever : ofChars text ≠ .never)
    (hall : ofChars text ≠ .all) : Spells (ofChars text).render.toList interval.capped := by
  have hdigits := isNumeral_digits
  have hcapped : ∀ n : UInt32, min top.toNat n.toNat = n.toNat := fun n => by
    have htop : (UInt32.size : Nat) = top.toNat + 1 := rfl
    have hmax := n.toNat_lt_size
    omega
  cases h with
  | all => exact absurd (by decide) hall
  | exact hn =>
    rw [ofChars_numeral hn] at hnever ⊢
    obtain ⟨n, hvalue, hread⟩ := exists_of_ofLower_ne_never hnever
    have hspells := Spells.exact (hdigits n.toNat)
    rw [hread, toList_render_exact]
    simpa [Interval.capped, hvalue, hcapped] using hspells
  | @range _ high hlow hhigh =>
    rw [ofChars_range hlow hhigh] at hnever ⊢
    obtain ⟨n, hvalue, hread⟩ := exists_of_ofLower_ne_never hnever
    have hspells := Spells.range (hdigits n.toNat) (hdigits (upperBound high).toNat)
    rw [hread, toList_render_range]
    simpa [Interval.capped, hvalue, toNat_upperBound] using hspells
  | atLeast hlow =>
    rw [ofChars_atLeast hlow] at hnever ⊢
    obtain ⟨n, hvalue, hread⟩ := exists_of_ofLower_ne_never hnever
    have hspells := Spells.atLeast (hdigits n.toNat)
    rw [hread, toList_render_atLeast]
    simpa [Interval.capped, hvalue] using hspells
  | @atMost high hhigh =>
    have hspells := Spells.atMost (hdigits (upperBound high).toNat)
    rw [ofChars_atMost hhigh, toList_render_atMost]
    simpa [Interval.capped, toNat_upperBound] using hspells

end

/-- A qualifier is known by the text that shows it, and read back from it unless it lets every
ordinal in. A text that is not read as that one may thus be replaced by the text that shows what it
is read as: it is read the same, lets the same ordinals in and says the same interval with its upper
bound lowered to the highest ordinal, and two such texts are shown alike exactly if they are read
alike. -/
theorem shown_text_canonical :
    (∀ first second : Qualifier, first.render = second.render ↔ first = second) ∧
    (∀ qualifier, qualifier ≠ .all → parse qualifier.render = qualifier) ∧
    ∀ text, parse text ≠ .all →
      parse (parse text).render = parse text ∧
      (∀ ordinal, qualifies (parse text).render ordinal = qualifies text ordinal) ∧
      (∀ interval, Spells text.toList interval → parse text ≠ .never →
        Spells (parse text).render.toList interval.capped) ∧
      ∀ other, parse other ≠ .all →
        ((parse text).render = (parse other).render ↔ parse text = parse other) := by
  refine ⟨fun _ _ => render_inj, fun _ => parse_render, fun text hall => ?_⟩
  have hread := parse_render hall
  refine ⟨hread, fun ordinal => ?_, fun interval hspells hnever => ?_, fun other _ => render_inj⟩
  · rw [qualifies, qualifies, hread]
  · exact hspells.render hnever hall

theorem shown_text_canonical_zeros :
    parse "007-4294967296" ≠ .all ∧ parse "007-4294967296" ≠ .never ∧
    Spells "007-4294967296".toList ⟨7, some 4294967296⟩ ∧
    Spells "7-4294967295".toList ⟨7, some 4294967295⟩ ∧
    ∀ ordinal, qualifies "7-4294967295" ordinal = qualifies "007-4294967296" ordinal := by
  obtain ⟨-, -, hshown⟩ := shown_text_canonical
  have hread : parse "007-4294967296" = .range 7 4294967295 := by decide
  have hall : parse "007-4294967296" ≠ .all := by simp [hread]
  have hnever : parse "007-4294967296" ≠ .never := by simp [hread]
  have htext : (parse "007-4294967296").render = "7-4294967295" := by
    rw [hread]
    decide
  have hspells : Spells "007-4294967296".toList ⟨7, some 4294967296⟩ :=
    @Spells.range ['0', '0', '7'] "4294967296".toList (by decide) (by decide)
  obtain ⟨-, hsame, hsays, -⟩ := hshown "007-4294967296" hall
  rw [htext] at hsame hsays
  exact ⟨hall, hnever, hspells, hsays _ hspells hnever, hsame⟩

end OrdinalAdmission.Qualifier
