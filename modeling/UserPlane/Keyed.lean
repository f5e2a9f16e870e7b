/-! # Lists with one entry a key

**`put`** adds an entry to a list, or puts it in the place of the entry that has the same key; so
entries stay in the order in which their keys first came, and each has the value that came last.
**`find?`** looks up the first entry with a key (`find?_eq_some_iff_append`). -/

namespace UserPlane.Keyed

variable {α κ : Type} [DecidableEq κ] (key : α → κ)

/-- The list with the entry in the place of the first one with its key, or at the end. -/
def put (new : α) : List α → List α
  | [] => [new]
  | old :: rest => if key old = key new then new :: rest else old :: put new rest

/-- The first entry with the key. -/
def find? (k : κ) (entries : List α) : Option α := entries.find? fun e => key e = k

/-- **`find?` gives the first entry with a key**: none of the entries before it has the key. -/
theorem find?_eq_some_iff_append {k : κ} {entries : List α} {e : α} :
    find? key k entries = some e ↔
      key e = k ∧ ∃ before after, entries = before ++ e :: after ∧ ∀ b ∈ before, key b ≠ k := by
  rw [find?, List.find?_eq_some_iff_append]
  simp only [decide_eq_true_eq, Bool.not_eq_true', decide_eq_false_iff_not, ne_eq]

@[simp] theorem put_nil (new : α) : put key new [] = [new] := rfl

/-- Putting an entry adds its key at the end, unless it is there. -/
theorem map_key_put (new : α) (entries : List α) :
    (put key new entries).map key =
      if key new ∈ entries.map key then entries.map key else entries.map key ++ [key new] := by
  induction entries with
  | nil => simp
  | cons old rest ih =>
    by_cases h : key old = key new
    · simp [put, h]
    · have h' : key new ≠ key old := Ne.symm h
      by_cases hm : key new ∈ rest.map key
      · simp [put, h, ih, List.mem_cons, hm]
      · simp only [put, h, if_false, List.map_cons, ih, if_neg hm, List.mem_cons, h', false_or]
        simp

/-- Keys that differ pairwise still do so after a `put`. -/
theorem nodup_put {new : α} {entries : List α} (h : (entries.map key).Nodup) :
    ((put key new entries).map key).Nodup := by
  rw [map_key_put]
  split
  · exact h
  · rename_i hm
    rw [List.nodup_append]
    refine ⟨h, by simp, ?_⟩
    intro a ha b hb
    rw [List.mem_singleton] at hb
    subst hb
    exact fun hab => hm (hab ▸ ha)

/-- The entry just put is found under its key. -/
@[simp] theorem find?_put_self (new : α) (entries : List α) :
    find? key (key new) (put key new entries) = some new := by
  induction entries with
  | nil => simp [find?]
  | cons old rest ih =>
    unfold put
    split
    · simp [find?]
    · rename_i h
      simpa [find?, h] using ih

/-- A `put` changes what is found under no other key. -/
theorem find?_put_of_ne {new : α} {k : κ} (h : k ≠ key new) (entries : List α) :
    find? key k (put key new entries) = find? key k entries := by
  induction entries with
  | nil => simp [find?, Ne.symm h]
  | cons old rest ih =>
    unfold put
    split
    · rename_i ho
      simp [find?, ho, Ne.symm h]
    · simp only [find?, List.find?_cons] at ih ⊢
      split
      · rfl
      · exact ih

end UserPlane.Keyed
