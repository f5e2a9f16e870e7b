import UserPlane.Codec
import UserPlane.Proofs.Json.Wire
import Mathlib.Data.List.Induction

/-! # Fields that are matched on twice

A match key **matches once** on a field if no two of its matches are on it. Each match that is added
keeps this up, since it takes the place of the one on the same field
(`MatchKey.matchesOnce_insert`), and so does a whole sequence of them; conversely a key that matches
once on each field is made by adding its own matches. A key that is read has not been made by
adding: **every key whatsoever is read from a document**. Where a field is repeated the two ways
part, since a look-up finds the first match of the key, and the last one of those that were added
(`MatchKey.find?_ofMatches`). -/

namespace UserPlane

/-! ## Entries that are put one after another -/

namespace Keyed

variable {α κ : Type} [DecidableEq κ] {key : α → κ}

/-- An entry whose key is not there is put at the end. -/
theorem put_of_not_mem {new : α} {entries : List α} (h : key new ∉ entries.map key) :
    put key new entries = entries ++ [new] := by
  induction entries with
  | nil => rfl
  | cons old rest ih =>
    rw [List.map_cons, List.mem_cons, not_or] at h
    obtain ⟨hold, hrest⟩ := h
    rw [put, if_neg (Ne.symm hold), ih hrest]
    rfl

end Keyed

namespace MatchKey

/-! ## Keys that are built -/

/-- No field is matched on twice. -/
def MatchesOnce (key : MatchKey) : Prop := (key.fieldMatches.map FieldMatch.field).Nodup

instance (key : MatchKey) : Decidable key.MatchesOnce :=
  inferInstanceAs (Decidable (List.Nodup _))

variable {key : MatchKey}

/-- A key without matches matches once. -/
theorem matchesOnce_empty : empty.MatchesOnce := List.nodup_nil

/-- A match that is added to a key does not repeat a field. -/
theorem matchesOnce_insert (h : key.MatchesOnce) (m : FieldMatch) : (key.insert m).MatchesOnce :=
  Keyed.nodup_put FieldMatch.field h

/-- Matches that are added to a key one after another do not repeat a field. -/
theorem matchesOnce_foldl_insert (h : key.MatchesOnce) (ms : List FieldMatch) :
    (ms.foldl insert key).MatchesOnce := by
  induction ms generalizing key with
  | nil => exact h
  | cons m ms ih => exact ih (matchesOnce_insert h m)

/-- **A key that is built matches once.** -/
theorem matchesOnce_ofMatches (ms : List FieldMatch) : (ofMatches ms).MatchesOnce :=
  matchesOnce_foldl_insert matchesOnce_empty ms

/-- The last of several matches is added to what the others make. -/
theorem ofMatches_concat (ms : List FieldMatch) (m : FieldMatch) :
    ofMatches (ms ++ [m]) = (ofMatches ms).insert m := by
  rw [ofMatches, List.foldl_append]
  rfl

/-- Matches on different fields make the key that they are. -/
theorem ofMatches_of_matchesOnce {ms : List FieldMatch} (h : (mk ms).MatchesOnce) :
    ofMatches ms = ⟨ms⟩ := by
  induction ms using List.reverseRecOn with
  | nil => rfl
  | append_singleton ms m ih =>
    rw [MatchesOnce, List.map_append, List.nodup_append] at h
    obtain ⟨hothers, -, hdiffer⟩ := h
    have hfresh : m.field ∉ ms.map FieldMatch.field :=
      fun hmem => hdiffer m.field hmem m.field (List.mem_singleton_self _) rfl
    rw [ofMatches_concat, ih hothers, insert, Keyed.put_of_not_mem hfresh]

/-- **The keys that can be built are those that match once.** -/
theorem exists_ofMatches_iff_matchesOnce : (∃ ms, ofMatches ms = key) ↔ key.MatchesOnce := by
  constructor
  · rintro ⟨ms, rfl⟩
    exact matchesOnce_ofMatches ms
  · intro h
    exact ⟨key.fieldMatches, ofMatches_of_matchesOnce h⟩

/-- A look-up goes through the matches in order. -/
theorem find?_cons (m : FieldMatch) (ms : List FieldMatch) (field : FieldId) :
    (mk (m :: ms)).find? field = if m.field = field then some m else (mk ms).find? field := by
  by_cases h : m.field = field
  · simp [find?, Keyed.find?, h]
  · simp [find?, Keyed.find?, h]

/-- **A look-up finds the last match that was added** on a field, which is the first one of the
matches in reverse. -/
theorem find?_ofMatches (ms : List FieldMatch) (field : FieldId) :
    (ofMatches ms).find? field = (mk ms.reverse).find? field := by
  induction ms using List.reverseRecOn with
  | nil => rfl
  | append_singleton ms m ih =>
    rw [ofMatches_concat, List.reverse_concat, find?_cons]
    by_cases hfield : m.field = field
    · rw [if_pos hfield, ← hfield, find?_insert_self]
    · rw [if_neg hfield, find?_insert_of_ne (Ne.symm hfield), ih]

/-! ## Keys that are read -/

/-- **What is built matches once, what is read need not.** The keys that can be built are those that
match on no field twice, and a look-up in one finds the last match that was added. But every key is
read from the document it is written to, alone or in a table entry, and a look-up finds its first
match. -/
theorem built_iff_matchesOnce_and_readText (ms : List FieldMatch) :
    ((∃ added, ofMatches added = mk ms) ↔ (mk ms).MatchesOnce) ∧
      (∀ layout, Json.readText ofJson? (Json.write layout (mk ms).toJson) = .ok ⟨ms⟩) ∧
      (∀ layout table priority action,
        Json.readText TableEntry.ofJson?
            (Json.write layout (TableEntry.mk table ⟨ms⟩ priority action).toJson) =
          .ok ⟨table, ⟨ms⟩, priority, action⟩) ∧
      ∀ field, (mk ms).find? field = ms.find? (fun m => m.field = field) ∧
        (ofMatches ms).find? field = ms.reverse.find? (fun m => m.field = field) := by
  refine ⟨exists_ofMatches_iff_matchesOnce, ?_, ?_, ?_⟩
  · intro layout
    exact (MatchKey.faithful 0).readText_write (by decide) layout ⟨ms⟩
  · intro layout table priority action
    exact (TableEntry.faithful 0).readText_write (by decide) layout _
  · intro field
    exact ⟨rfl, find?_ofMatches ms field⟩

/-- An entry whose key is read is for another application than one whose key is built of the same
matches. -/
example :
    (TableEntry.mk .uplinkTerminations
        ⟨[.ofAddress .ueAddress ⟨0x11000001⟩, .ofByte .application 3, .ofByte .application 4]⟩ none
        (some ⟨.dropUplink, [⟨.counter, .ofUInt32 9⟩]⟩)).decode =
          .ok (.uplinkTermination ⟨⟨0x11000001⟩, 3, 9, none, true⟩) ∧
      (TableEntry.mk .uplinkTerminations
        (ofMatches
          [.ofAddress .ueAddress ⟨0x11000001⟩, .ofByte .application 3, .ofByte .application 4]) none
        (some ⟨.dropUplink, [⟨.counter, .ofUInt32 9⟩]⟩)).decode =
          .ok (.uplinkTermination ⟨⟨0x11000001⟩, 4, 9, none, true⟩) :=
  ⟨rfl, rfl⟩

/-- Two matches on one field. -/
def repeatedMatches : List FieldMatch := [.ofByte .application 3, .ofByte .application 4]

/-- A text that repeats a field. -/
def repeatedText : String :=
  "[\x7b\"field_id\":\"app_id\",\"type\":\"exact\",\"value\":\"0x03\"\x7d," ++
    "\x7b\"field_id\":\"app_id\",\"type\":\"exact\",\"value\":\"0x04\"\x7d]"

/-- A key that holds both matches on one field is written as the text that repeats the field. -/
theorem write_repeatedMatches : Json.write .compact (mk repeatedMatches).toJson = repeatedText := by
  cbv

/-- Both a key and a table entry can be read whose matches repeat a field. -/
theorem exists_readText_not_matchesOnce :
    (∃ key, Json.readText ofJson? repeatedText = .ok key ∧ ¬key.MatchesOnce) ∧
      ∃ text entry, Json.readText TableEntry.ofJson? text = .ok entry ∧
        ¬entry.matchKey.MatchesOnce := by
  have hrepeats : ¬(mk repeatedMatches).MatchesOnce := by decide
  constructor
  · have hread := (MatchKey.faithful 0).readText_write (by decide) .compact ⟨repeatedMatches⟩
    rw [write_repeatedMatches] at hread
    exact ⟨_, hread, hrepeats⟩
  · have hread := (TableEntry.faithful 0).readText_write (by decide) .compact
      ⟨.uplinkTerminations, ⟨repeatedMatches⟩, none, none⟩
    exact ⟨_, _, hread, hrepeats⟩

end MatchKey

end UserPlane
