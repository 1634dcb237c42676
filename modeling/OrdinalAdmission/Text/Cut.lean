/-!
# Cutting a text at a character

A text is cut at the first or at the last place a separator stands, or at all of them; the separator
itself is dropped. `cutLast?_eq_some_iff` and `cutFirst?_eq_some_iff` say which pairs come out, and
`intercalate_pieces` says which pieces.
-/

namespace OrdinalAdmission.Text

def cutFirst? (sep : Char) : List Char → Option (List Char × List Char)
  | [] => none
  | c :: rest =>
    if c = sep then some ([], rest)
    else (cutFirst? sep rest).map fun (before, after) => (c :: before, after)

def cutLast? (sep : Char) : List Char → Option (List Char × List Char)
  | [] => none
  | c :: rest =>
    match cutLast? sep rest with
    | some (before, after) => some (c :: before, after)
    | none => if c = sep then some ([], rest) else none

/-- The pieces between the places where `sep` stands; there is always at least one. -/
def pieces (sep : Char) : List Char → List (List Char)
  | [] => [[]]
  | c :: rest =>
    match pieces sep rest with
    | [] => [[c]]
    | piece :: more => if c = sep then [] :: piece :: more else (c :: piece) :: more

theorem cutFirst?_eq_none_iff {sep : Char} {cs : List Char} :
    cutFirst? sep cs = none ↔ sep ∉ cs := by
  induction cs with
  | nil => simp [cutFirst?]
  | cons c rest ih =>
    by_cases h : c = sep
    · simp [cutFirst?, h]
    · simp [cutFirst?, h, ih, Ne.symm h]

theorem cutFirst?_eq_some_iff {sep : Char} {cs before after : List Char} :
    cutFirst? sep cs = some (before, after) ↔ cs = before ++ sep :: after ∧ sep ∉ before := by
  induction cs generalizing before with
  | nil => simp [cutFirst?]
  | cons c rest ih =>
    by_cases h : c = sep
    · subst h
      cases before with
      | nil => simp [cutFirst?, eq_comm]
      | cons b before => simp [cutFirst?]; intro hb _; simp [hb]
    · cases before with
      | nil => simp [cutFirst?, h]
      | cons b before =>
        simp [cutFirst?, h, ih]
        constructor
        · rintro ⟨⟨rfl, hn⟩, rfl⟩; exact ⟨⟨rfl, rfl⟩, Ne.symm h, hn⟩
        · rintro ⟨⟨rfl, rfl⟩, _, hn⟩; exact ⟨⟨rfl, hn⟩, rfl⟩

theorem cutLast?_eq_none_iff {sep : Char} {cs : List Char} :
    cutLast? sep cs = none ↔ sep ∉ cs := by
  induction cs with
  | nil => simp [cutLast?]
  | cons c rest ih =>
    rw [cutLast?]
    split
    · next heq => simp [heq] at ih; simp [ih]
    · next heq => simp [heq] at ih; simp [ih, eq_comm]

theorem cutLast?_eq_some_iff {sep : Char} {cs before after : List Char} :
    cutLast? sep cs = some (before, after) ↔ cs = before ++ sep :: after ∧ sep ∉ after := by
  induction cs generalizing before with
  | nil => simp [cutLast?]
  | cons c rest ih =>
    rw [cutLast?]
    split
    · next front back heq =>
      have hmem : sep ∈ rest := Classical.not_not.mp fun hn => by
        simp [cutLast?_eq_none_iff.mpr hn] at heq
      cases before with
      | nil =>
        simp only [Option.some.injEq, Prod.mk.injEq, List.nil_append, List.cons.injEq]
        constructor
        · rintro ⟨h, _⟩; cases h
        · rintro ⟨⟨_, rfl⟩, hn⟩; exact absurd hmem hn
      | cons b before =>
        have := @ih before
        rw [heq] at this
        simp only [Option.some.injEq, Prod.mk.injEq, List.cons.injEq, List.cons_append] at this ⊢
        constructor
        · rintro ⟨⟨rfl, rfl⟩, rfl⟩
          have := this.mp ⟨rfl, rfl⟩
          exact ⟨⟨rfl, this.1⟩, this.2⟩
        · rintro ⟨⟨rfl, h⟩, hn⟩
          have := this.mpr ⟨h, hn⟩
          exact ⟨⟨rfl, this.1⟩, this.2⟩
    · next heq =>
      have hn := cutLast?_eq_none_iff.mp heq
      cases before with
      | nil =>
        simp only [List.nil_append, List.cons.injEq]
        split
        · next hc =>
          subst hc
          simp only [Option.some.injEq, Prod.mk.injEq, true_and]
          exact ⟨fun h => h ▸ ⟨rfl, hn⟩, fun h => h.1⟩
        · next hc => simp [hc]
      | cons b before =>
        simp only [List.cons_append, List.cons.injEq]
        constructor
        · intro h; split at h <;> simp at h
        · rintro ⟨⟨_, rfl⟩, _⟩; simp at hn

theorem pieces_ne_nil (sep : Char) (cs : List Char) : pieces sep cs ≠ [] := by
  cases cs with
  | nil => simp [pieces]
  | cons c rest =>
    rw [pieces]
    split
    · simp
    · split <;> simp

theorem pieces_cons {sep c : Char} {rest piece : List Char} {more : List (List Char)}
    (h : pieces sep rest = piece :: more) :
    pieces sep (c :: rest) = if c = sep then [] :: piece :: more else (c :: piece) :: more := by
  rw [pieces, h]

theorem intercalate_pieces (sep : Char) (cs : List Char) :
    [sep].intercalate (pieces sep cs) = cs := by
  induction cs with
  | nil => rfl
  | cons c rest ih =>
    obtain ⟨piece, more, hpieces⟩ := List.exists_cons_of_ne_nil (pieces_ne_nil sep rest)
    rw [hpieces] at ih
    rw [pieces_cons hpieces]
    split
    · next hc => rw [List.intercalate_cons_cons, ih, hc]; rfl
    · rw [List.intercalate_cons_cons_left, ih]

theorem not_mem_of_mem_pieces {sep : Char} {cs piece : List Char} (h : piece ∈ pieces sep cs) :
    sep ∉ piece := by
  induction cs generalizing piece with
  | nil => simp_all [pieces]
  | cons c rest ih =>
    obtain ⟨first, more, hpieces⟩ := List.exists_cons_of_ne_nil (pieces_ne_nil sep rest)
    rw [hpieces] at ih
    rw [pieces_cons hpieces] at h
    split at h
    · rcases List.mem_cons.mp h with rfl | h
      · simp
      · exact ih h
    · next hc =>
      rcases List.mem_cons.mp h with rfl | h
      · simpa [Ne.symm hc] using ih List.mem_cons_self
      · exact ih (List.mem_cons_of_mem _ h)

end OrdinalAdmission.Text
