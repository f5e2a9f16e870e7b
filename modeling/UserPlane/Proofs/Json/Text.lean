import UserPlane.Json.Text

/-! # Strings in JSON text

A character is written in one of three ways (`Json.Escapes`): as its short escape, as a unit by
number if it is another control character, or as itself. Each way reads as one piece again
(`Json.Escapes.pieces_append`), and as none of the units is half of a surrogate pair, the pieces
make up the characters one by one (`Json.assemble_map_ofChar`). So **a quoted string is scanned as
itself** (`Json.scanString_append`), whatever its characters are. -/

namespace UserPlane

/-- The digits by which a character of one byte is escaped read as its code. -/
theorem Hexadecimal.unit?_digits {n : Nat} (hn : n < 256) :
    unit? '0' '0' (digit (n / 16)) (digit (n % 16)) = some n := by
  have hzero : value? '0' = some 0 := by decide
  have hhigh : value? (digit (n / 16)) = some (n / 16) := value?_digit _ (by omega)
  have hlow : value? (digit (n % 16)) = some (n % 16) := value?_digit _ (by omega)
  simp only [unit?, hzero, hhigh, hlow, Option.bind_eq_bind, Option.bind_some, Option.some.injEq]
  omega

namespace Json

/-! ## How a character is written -/

/-- The characters that have a short escape of their own. -/
def shortEscaped : List Char := ['"', '\\', '\x08', '\t', '\n', '\x0c', '\r']

/-- The piece that a written character reads as. -/
def Piece.ofChar (c : Char) : Piece :=
  if c.toNat < 0x20 ∧ c ∉ shortEscaped then .unit c.toNat else .char c

/-- How a character may be written, and the piece that it then reads as. -/
inductive Escapes (c : Char) : List Char → Piece → Prop where
  /-- The character is written by its short escape. -/
  | short {e : Char} (h : shortEscape? e = some c) : Escapes c ['\\', e] (.char c)
  /-- The character is written by its number, which takes no more than two digits. -/
  | unit (h : c.toNat < 0x20) :
    Escapes c ['\\', 'u', '0', '0', Hexadecimal.digit (c.toNat / 16),
      Hexadecimal.digit (c.toNat % 16)] (.unit c.toNat)
  /-- The character is written as itself. -/
  | plain (hquote : c ≠ '"') (hbackslash : c ≠ '\\') (hcontrol : ¬c.toNat < 0x20) :
    Escapes c [c] (.char c)

/-- Every character is escaped in a way in which it may be written. -/
theorem escapes_escape (c : Char) : Escapes c (escape c) (Piece.ofChar c) := by
  by_cases hshort : c ∈ shortEscaped
  · have hcases := hshort
    simp only [shortEscaped, List.mem_cons, List.not_mem_nil, or_false] at hcases
    rcases hcases with rfl | rfl | rfl | rfl | rfl | rfl | rfl
    all_goals exact .short rfl
  · have hne := hshort
    simp only [shortEscaped, List.mem_cons, List.not_mem_nil, or_false, not_or] at hne
    obtain ⟨hquote, hbackslash, hbackspace, htab, hnewline, hfeed, hreturn⟩ := hne
    rw [escape, if_neg hquote, if_neg hbackslash, if_neg hbackspace, if_neg htab, if_neg hnewline,
      if_neg hfeed, if_neg hreturn, Piece.ofChar]
    by_cases hcontrol : c.toNat < 0x20
    · rw [if_pos hcontrol, if_pos ⟨hcontrol, hshort⟩]
      exact .unit hcontrol
    · rw [if_neg hcontrol, if_neg (mt And.left hcontrol)]
      exact .plain hquote hbackslash hcontrol

/-! ## Reading it as a piece -/

/-- What is written for a character reads as one piece. -/
theorem Escapes.pieces_append {c : Char} {cs : List Char} {p : Piece} (h : Escapes c cs p)
    (read : List Piece) (rest : List Char) :
    pieces read (cs ++ rest) = pieces (p :: read) rest := by
  cases h with
  | @short e h =>
    rw [List.cons_append, List.cons_append, List.nil_append, pieces]
    · simp only [h]
    · -- what is left of an escape by number would have to begin with a letter that is no escape
      rintro _ _ _ _ _ rfl -
      cases h
  | unit h =>
    simp only [List.cons_append, List.nil_append]
    rw [pieces]
    simp only [Hexadecimal.unit?_digits (Nat.lt_trans h (by decide))]
  | plain hquote hbackslash hcontrol =>
    rw [List.cons_append, List.nil_append, pieces]
    · rw [if_neg (not_or.mpr ⟨hcontrol, hbackslash⟩)]
    · exact hquote
    · rintro _ _ _ _ _ hback -
      exact hbackslash hback
    · rintro _ _ hback -
      exact hbackslash hback

/-- The pieces of a written string are those of its characters, up to the closing quote. -/
theorem pieces_flatMap_escape (read : List Piece) (cs rest : List Char) :
    pieces read (cs.flatMap escape ++ '"' :: rest) =
      some (read.reverse ++ cs.map Piece.ofChar, rest) := by
  induction cs generalizing read with
  | nil =>
    rw [List.flatMap_nil, List.nil_append, pieces, List.map_nil, List.append_nil]
  | cons c cs ih =>
    rw [List.flatMap_cons, List.append_assoc, (escapes_escape c).pieces_append, ih,
      List.reverse_cons, List.append_assoc, List.map_cons]
    rfl

/-! ## Making up characters -/

/-- A unit below the surrogates stands for its character, whatever comes next. -/
theorem assemble_unit {c : Char} (hc : c.toNat < 0xd800) (made : List Char) (ps : List Piece) :
    assemble made (.unit c.toNat :: ps) = assemble (c :: made) ps := by
  have hhigh : isHighSurrogate c.toNat = false := by
    rw [isHighSurrogate, decide_eq_false (Nat.not_le.mpr hc), Bool.false_and]
  have hlow : isLowSurrogate c.toNat = false := by
    rw [isLowSurrogate, decide_eq_false (by omega), Bool.false_and]
  have hchar : Char.ofNat c.toNat = c := Char.ofNat_toNat c
  cases ps with
  | nil => simp [assemble, hhigh, hlow, hchar]
  | cons p ps =>
    cases p with
    | char d => simp [assemble, hhigh, hlow, hchar]
    | unit code => simp [assemble, hhigh, hlow, hchar]

/-- The piece of a character makes it up. -/
theorem assemble_ofChar (c : Char) (made : List Char) (ps : List Piece) :
    assemble made (Piece.ofChar c :: ps) = assemble (c :: made) ps := by
  rw [Piece.ofChar]
  split
  · rename_i h
    exact assemble_unit (Nat.lt_trans h.1 (by decide)) made ps
  · rfl

/-- The pieces of characters make them up. -/
theorem assemble_map_ofChar (made cs : List Char) :
    assemble made (cs.map Piece.ofChar) = some (made.reverse ++ cs) := by
  induction cs generalizing made with
  | nil => rw [List.map_nil, assemble, List.append_nil]
  | cons c cs ih =>
    rw [List.map_cons, assemble_ofChar, ih, List.reverse_cons, List.append_assoc]
    rfl

/-! ## Whole strings -/

/-- **A written string is scanned as itself**, up to its closing quote. -/
theorem scanString_append (s : String) (rest : List Char) :
    scanString (s.toList.flatMap escape ++ '"' :: rest) = some (some s, rest) := by
  have hmade : assemble [] (s.toList.map Piece.ofChar) = some s.toList :=
    assemble_map_ofChar [] s.toList
  rw [scanString, pieces_flatMap_escape, List.reverse_nil, List.nil_append]
  simp only [Option.map_some, hmade, String.ofList_toList]

/-- A quoted string begins and ends with a quote. -/
theorem quote_append (s : String) (rest : List Char) :
    quote s ++ rest = '"' :: (s.toList.flatMap escape ++ '"' :: rest) := by
  rw [quote, List.append_assoc]
  rfl

end Json

end UserPlane
