/-! # Text cut by bytes

Places in a text are counted in **bytes** of its encoding. A text can be cut where a character
begins or where the text ends, and nowhere else: **`between?`** is the part between two such places
(`between?_eq_some_iff`). -/

namespace UserPlane.Text

/-- How many bytes the characters of a text take. -/
def byteCount : List Char → Nat
  | [] => 0
  | c :: rest => c.utf8Size + byteCount rest

/-- The text from a place on, if it can be cut there. -/
def dropBytes? : Nat → List Char → Option (List Char)
  | 0, cs => some cs
  | _ + 1, [] => none
  | n + 1, c :: rest => if c.utf8Size ≤ n + 1 then dropBytes? (n + 1 - c.utf8Size) rest else none

/-- The text up to a place, if it can be cut there. -/
def takeBytes? : Nat → List Char → Option (List Char)
  | 0, _ => some []
  | _ + 1, [] => none
  | n + 1, c :: rest =>
    if c.utf8Size ≤ n + 1 then (takeBytes? (n + 1 - c.utf8Size) rest).map (c :: ·) else none

/-- The text between a place and a later one, if it can be cut at both. -/
def between? (start stop : Nat) (cs : List Char) : Option (List Char) :=
  (dropBytes? start cs).bind (takeBytes? (stop - start))

/-! ## Where a text can be cut -/

@[simp] theorem byteCount_nil : byteCount [] = 0 := rfl

@[simp] theorem byteCount_cons (c : Char) (cs : List Char) :
    byteCount (c :: cs) = c.utf8Size + byteCount cs := rfl

/-- A text without bytes has no characters. -/
theorem byteCount_eq_zero {cs : List Char} : byteCount cs = 0 ↔ cs = [] := by
  cases cs with
  | nil => simp
  | cons c rest =>
    have := c.utf8Size_pos
    simp only [byteCount_cons, reduceCtorEq, iff_false]
    omega

/-- The text from a place on is what is left without a beginning of that many bytes. -/
theorem dropBytes?_eq_some_iff {n : Nat} {cs rest : List Char} :
    dropBytes? n cs = some rest ↔ ∃ before, byteCount before = n ∧ cs = before ++ rest := by
  fun_induction dropBytes? n cs with
  | case1 cs =>
    simp [byteCount_eq_zero]
  | case2 n =>
    simp only [reduceCtorEq, false_iff, not_exists, not_and]
    rintro before h he
    obtain ⟨rfl, rfl⟩ := List.append_eq_nil_iff.1 he.symm
    simp at h
  | case3 n c tail hc ih =>
    rw [ih]
    clear ih
    constructor
    · rintro ⟨before, h, rfl⟩
      exact ⟨c :: before, by simp only [byteCount_cons]; omega, rfl⟩
    · rintro ⟨before, h, he⟩
      cases before with
      | nil => simp at h
      | cons d before =>
        simp only [List.cons_append, List.cons.injEq] at he
        obtain ⟨rfl, rfl⟩ := he
        exact ⟨before, by simp only [byteCount_cons] at h; omega, rfl⟩
  | case4 n c tail hc =>
    simp only [reduceCtorEq, false_iff, not_exists, not_and]
    rintro before h he
    cases before with
    | nil => simp at h
    | cons d before =>
      simp only [List.cons_append, List.cons.injEq] at he
      obtain ⟨rfl, rfl⟩ := he
      simp only [byteCount_cons] at h
      omega

/-- The text up to a place is a beginning of that many bytes. -/
theorem takeBytes?_eq_some_iff {n : Nat} {cs before : List Char} :
    takeBytes? n cs = some before ↔ byteCount before = n ∧ ∃ rest, cs = before ++ rest := by
  fun_induction takeBytes? n cs generalizing before with
  | case1 cs =>
    simp only [Option.some.injEq, byteCount_eq_zero]
    constructor
    · rintro rfl
      exact ⟨rfl, cs, rfl⟩
    · rintro ⟨rfl, -⟩
      rfl
  | case2 n =>
    simp only [reduceCtorEq, false_iff, not_and, not_exists]
    rintro h rest he
    obtain ⟨rfl, rfl⟩ := List.append_eq_nil_iff.1 he.symm
    simp at h
  | case3 n c tail hc ih =>
    simp only [Option.map_eq_some_iff, ih]
    clear ih
    constructor
    · rintro ⟨before, ⟨h, rest, rfl⟩, rfl⟩
      exact ⟨by simp only [byteCount_cons]; omega, rest, rfl⟩
    · rintro ⟨h, rest, he⟩
      cases before with
      | nil => simp at h
      | cons d before =>
        simp only [List.cons_append, List.cons.injEq] at he
        obtain ⟨rfl, rfl⟩ := he
        exact ⟨before, ⟨by simp only [byteCount_cons] at h; omega, rest, rfl⟩, rfl⟩
  | case4 n c tail hc =>
    simp only [reduceCtorEq, false_iff, not_and, not_exists]
    rintro h rest he
    cases before with
    | nil => simp at h
    | cons d before =>
      simp only [List.cons_append, List.cons.injEq] at he
      obtain ⟨rfl, rfl⟩ := he
      simp only [byteCount_cons] at h
      omega

/-- The text between two places is a part that begins at the first and is as long as they are
apart. -/
theorem between?_eq_some_iff {start stop : Nat} {cs part : List Char} :
    between? start stop cs = some part ↔
      ∃ before after, cs = before ++ part ++ after ∧ byteCount before = start ∧
        byteCount part = stop - start := by
  simp only [between?, Option.bind_eq_some_iff, dropBytes?_eq_some_iff, takeBytes?_eq_some_iff]
  constructor
  · rintro ⟨_, ⟨before, hb, rfl⟩, hp, after, rfl⟩
    exact ⟨before, after, by simp, hb, hp⟩
  · rintro ⟨before, after, rfl, hb, hp⟩
    exact ⟨part ++ after, ⟨before, hb, by simp⟩, hp, after, rfl⟩

end UserPlane.Text
