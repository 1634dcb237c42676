import OrdinalAdmission.Proofs.Expansion

/-!
# Reading a pod's name

A pod is named by its set's name, a hyphen and a numeral. Names may have hyphens and may end like
another pod's name, but no numeral has a hyphen, so a text is of that form in one way at most, cut at
its last hyphen. `Reads` says by the form of a text what it is read as: ordinals are numbers of
whatever size there, and only one that does not fit in 32 bits is refused for its size.
-/

namespace OrdinalAdmission.Identity

/-- The text is a nonempty name on one line, a hyphen and a numeral. -/
structure Splits (text name numeral : String) : Prop where
  joined : text = name ++ "-" ++ numeral
  nonempty : name ≠ ""
  oneLine : '\n' ∉ name.toList
  isNumeral : Decimal.isNumeral numeral.toList = true

inductive Reads (text : String) : Except IdentityError Identity → Prop where
  | identity {name numeral : String} {ordinal : UInt32} :
      Splits text name numeral → Decimal.value numeral.toList = ordinal.toNat →
      Reads text (.ok ⟨name, ordinal⟩)
  | ordinalTooLarge {name numeral : String} :
      Splits text name numeral → 4294967295 < Decimal.value numeral.toList →
      Reads text (.error (.ordinalTooLarge numeral))
  | invalidFormat :
      (¬ ∃ name numeral, Splits text name numeral) → Reads text (.error (.invalidFormat text))

section
variable {text name numeral name' numeral' : String}

-- ---------------------------------------------------------------------------
-- The one split of a text
-- ---------------------------------------------------------------------------

theorem Splits.cutLast? (h : Splits text name numeral) :
    Text.cutLast? '-' text.toList = some (name.toList, numeral.toList) := by
  obtain ⟨rfl, -, -, hnumeral⟩ := h
  exact Text.cutLast?_eq_some_iff.mpr ⟨by simp, Decimal.hyphen_not_mem hnumeral⟩

theorem Splits.unique (h : Splits text name numeral) (h' : Splits text name' numeral') :
    name = name' ∧ numeral = numeral' := by
  have hcut := h.cutLast?.symm.trans h'.cutLast?
  simpa [String.toList_inj] using hcut

theorem ofPodName_of_not_splits (h : ¬ ∃ name numeral, Splits text name numeral) :
    ofPodName text = .error (.invalidFormat text) := by
  unfold ofPodName
  split
  · rfl
  · next name numeral hcut =>
    obtain ⟨htext, -⟩ := Text.cutLast?_eq_some_iff.mp hcut
    split
    · rfl
    · next hform =>
      simp only [Bool.or_eq_true, List.isEmpty_iff, List.contains_iff_mem, Bool.not_eq_true',
        not_or, Bool.not_eq_false] at hform
      obtain ⟨⟨hname, hline⟩, hnumeral⟩ := hform
      refine absurd ⟨String.ofList name, String.ofList numeral, ?_, ?_, ?_, ?_⟩ h
      · simp [← String.toList_inj, htext]
      · simpa [← String.toList_inj] using hname
      · simpa using hline
      · simpa using hnumeral

theorem ofPodName_of_splits (h : Splits text name numeral) :
    ofPodName text = match Decimal.toUInt32? numeral.toList with
      | some ordinal => .ok ⟨name, ordinal⟩
      | none => .error (.ordinalTooLarge numeral) := by
  cases hordinal : Decimal.toUInt32? numeral.toList <;>
    simp [ofPodName, h.cutLast?, h.nonempty, h.oneLine, h.isNumeral, hordinal]

-- ---------------------------------------------------------------------------
-- What texts are read as
-- ---------------------------------------------------------------------------

theorem Reads.ofPodName_eq {result : Except IdentityError Identity} (h : Reads text result) :
    ofPodName text = result := by
  cases h with
  | identity hsplits hvalue =>
    rw [ofPodName_of_splits hsplits, Decimal.toUInt32?_eq_some_iff.mpr hvalue]
  | ordinalTooLarge hsplits hlarge =>
    rw [ofPodName_of_splits hsplits, Decimal.toUInt32?_eq_none_iff.mpr hlarge]
  | invalidFormat hnone => exact ofPodName_of_not_splits hnone

theorem reads_ofPodName (text : String) : Reads text (ofPodName text) := by
  by_cases hsplits : ∃ name numeral, Splits text name numeral
  · obtain ⟨name, numeral, hsplits⟩ := hsplits
    rw [ofPodName_of_splits hsplits]
    cases hordinal : Decimal.toUInt32? numeral.toList with
    | some ordinal => exact .identity hsplits (Decimal.toUInt32?_eq_some_iff.mp hordinal)
    | none => exact .ordinalTooLarge hsplits (Decimal.toUInt32?_eq_none_iff.mp hordinal)
  · rw [ofPodName_of_not_splits hsplits]
    exact .invalidFormat hsplits

theorem ofPodName_eq_iff {result : Except IdentityError Identity} :
    ofPodName text = result ↔ Reads text result := by
  constructor
  · rintro rfl
    exact reads_ofPodName text
  · exact Reads.ofPodName_eq

theorem ofPodName_podName_of_name (hne : name ≠ "") (hline : '\n' ∉ name.toList)
    (ordinal : UInt32) : ofPodName (podName ⟨name, ordinal⟩) = .ok ⟨name, ordinal⟩ := by
  have h := ofPodName_podName hne hline ordinal.toNat_lt_size
  rwa [UInt32.ofNat_toNat] at h

end

/-- A text is read as its form says, and it has one form only, since its numeral begins after its
last hyphen. So every identity that was read is read again from the name it is shown by, and so is
every identity whose set has a nonempty name on one line. -/
theorem read_by_form :
    (∀ text result, ofPodName text = result ↔ Reads text result) ∧
    (∀ text name numeral, Splits text name numeral →
      '-' ∉ numeral.toList ∧
        ∀ name' numeral', Splits text name' numeral' → name' = name ∧ numeral' = numeral) ∧
    (∀ text identity, ofPodName text = .ok identity →
      ofPodName identity.podName = .ok identity) ∧
    ∀ name ordinal, name ≠ "" → '\n' ∉ name.toList →
      ofPodName (name ++ "-" ++ Decimal.text ordinal.toNat) = .ok ⟨name, ordinal⟩ := by
  refine ⟨fun text result => ofPodName_eq_iff, ?_, ?_, ?_⟩
  · intro text name numeral h
    exact ⟨Decimal.hyphen_not_mem h.isNumeral, fun name' numeral' h' => h'.unique h⟩
  · intro text identity h
    cases ofPodName_eq_iff.mp h with
    | identity hsplits _ =>
      exact ofPodName_podName_of_name hsplits.nonempty hsplits.oneLine _
  · intro name ordinal hne hline
    exact ofPodName_podName_of_name hne hline ordinal

theorem read_by_form_hyphens :
    Splits "db-0--007" "db-0-" "007" ∧
    ofPodName "db-0--007" = .ok ⟨"db-0-", 7⟩ ∧ ofPodName "db-0--7" = .ok ⟨"db-0-", 7⟩ ∧
    ofPodName "db-4294967296" = .error (.ordinalTooLarge "4294967296") ∧
    ofPodName "db-0-" = .error (.invalidFormat "db-0-") := by
  obtain ⟨hreads, -, hshown, -⟩ := read_by_form
  have hsplits : Splits "db-0--007" "db-0-" "007" :=
    ⟨by decide, by decide, by decide, by decide⟩
  have hread : ofPodName "db-0--007" = .ok ⟨"db-0-", 7⟩ :=
    (hreads _ _).mpr (.identity hsplits (by decide))
  have hlarge : Splits "db-4294967296" "db" "4294967296" :=
    ⟨by decide, by decide, by decide, by decide⟩
  refine ⟨hsplits, hread, hshown _ _ hread, ?_, rfl⟩
  exact (hreads _ _).mpr (.ordinalTooLarge hlarge (by decide))

end OrdinalAdmission.Identity
