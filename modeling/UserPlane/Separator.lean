/-! # Text cut at a separator

**`fields`** cuts a text at every occurrence of a separator, **`cutLast?`** at the last one only.
Both lose nothing but the separators: joining the pieces gives the text back (`join_fields`,
`append_of_cutLast?`). -/

namespace UserPlane.Separator

/-- The pieces of a text between the separators; a text without one is a single piece. -/
def fields (sep : Char) : List Char → List (List Char)
  | [] => [[]]
  | c :: rest =>
    if c = sep then [] :: fields sep rest
    else match fields sep rest with
      | [] => [[c]]
      | piece :: pieces => (c :: piece) :: pieces

/-- The texts before and after the last separator, if there is one. -/
def cutLast? (sep : Char) : List Char → Option (List Char × List Char)
  | [] => none
  | c :: rest =>
    match cutLast? sep rest with
    | some (before, after) => some (c :: before, after)
    | none => if c = sep then some ([], rest) else none

/-- The pieces written one after another with the separator between them. -/
def join (sep : Char) : List (List Char) → List Char
  | [] => []
  | [piece] => piece
  | piece :: pieces => piece ++ sep :: join sep pieces

/-! ## Nothing but separators is lost -/

/-- A text has at least one piece. -/
theorem fields_ne_nil (sep : Char) (cs : List Char) : fields sep cs ≠ [] := by
  cases cs with
  | nil => simp [fields]
  | cons c rest =>
    unfold fields
    split
    · simp
    · split <;> simp

/-- Joining the pieces of a text gives the text. -/
@[simp] theorem join_fields (sep : Char) (cs : List Char) : join sep (fields sep cs) = cs := by
  induction cs with
  | nil => rfl
  | cons c rest ih =>
    unfold fields
    split
    · rename_i h
      subst h
      cases hf : fields c rest with
      | nil => exact absurd hf (fields_ne_nil c rest)
      | cons piece pieces => simp [join, ← hf, ih]
    · cases hf : fields sep rest with
      | nil => exact absurd hf (fields_ne_nil sep rest)
      | cons piece pieces =>
        rw [hf] at ih
        cases pieces with
        | nil => simpa [join] using ih
        | cons next more => simpa [join] using ih

/-- A text without a separator is a single piece. -/
theorem fields_of_not_mem {sep : Char} {cs : List Char} (h : sep ∉ cs) : fields sep cs = [cs] := by
  induction cs with
  | nil => rfl
  | cons c rest ih =>
    rw [List.mem_cons, not_or] at h
    rw [fields, if_neg (Ne.symm h.1), ih h.2]

/-- A piece ends at the first separator. -/
theorem fields_append {sep : Char} {piece : List Char} (h : sep ∉ piece) (rest : List Char) :
    fields sep (piece ++ sep :: rest) = piece :: fields sep rest := by
  induction piece with
  | nil => simp [fields]
  | cons c more ih =>
    rw [List.mem_cons, not_or] at h
    rw [List.cons_append, fields, if_neg (Ne.symm h.1), ih h.2]

/-- Pieces without separators come back after they were joined. -/
theorem fields_join {sep : Char} {pieces : List (List Char)} (hne : pieces ≠ [])
    (h : ∀ piece ∈ pieces, sep ∉ piece) : fields sep (join sep pieces) = pieces := by
  induction pieces with
  | nil => exact absurd rfl hne
  | cons piece rest ih =>
    rw [List.forall_mem_cons] at h
    cases rest with
    | nil => exact fields_of_not_mem h.1
    | cons next more =>
      rw [show join sep (piece :: next :: more) = piece ++ sep :: join sep (next :: more) from rfl,
        fields_append h.1, ih (by simp) h.2]

/-- There is no last separator exactly in a text without one. -/
theorem cutLast?_eq_none_iff {sep : Char} {cs : List Char} :
    cutLast? sep cs = none ↔ sep ∉ cs := by
  induction cs with
  | nil => simp [cutLast?]
  | cons c rest ih =>
    unfold cutLast?
    cases h : cutLast? sep rest with
    | none =>
      have := ih.1 h
      by_cases hc : c = sep
      · simp [hc]
      · simp [hc, this, Ne.symm hc]
    | some p =>
      have : sep ∈ rest := by
        by_cases hm : sep ∈ rest
        · exact hm
        · exact absurd (ih.2 hm) (by simp [h])
      simp [this]

/-- A separator is the last one if there is none after it. -/
theorem cutLast?_append {sep : Char} {before after : List Char} (h : sep ∉ after) :
    cutLast? sep (before ++ sep :: after) = some (before, after) := by
  induction before with
  | nil => simp [cutLast?, cutLast?_eq_none_iff.2 h]
  | cons c rest ih => simp [cutLast?, ih]

/-- The two sides of the last separator make up the text, and the second holds no separator. -/
theorem append_of_cutLast? {sep : Char} {cs before after : List Char}
    (h : cutLast? sep cs = some (before, after)) :
    cs = before ++ sep :: after ∧ sep ∉ after := by
  induction cs generalizing before with
  | nil => simp [cutLast?] at h
  | cons c rest ih =>
    unfold cutLast? at h
    split at h
    · rename_i b a hr
      simp only [Option.some.injEq, Prod.mk.injEq] at h
      obtain ⟨rfl, rfl⟩ := h
      obtain ⟨h1, h2⟩ := ih hr
      exact ⟨by simp [h1], h2⟩
    · rename_i hr
      split at h
      · simp only [Option.some.injEq, Prod.mk.injEq] at h
        obtain ⟨rfl, rfl⟩ := h
        rename_i hc
        exact ⟨by simp [hc], cutLast?_eq_none_iff.1 hr⟩
      · cases h

end UserPlane.Separator
