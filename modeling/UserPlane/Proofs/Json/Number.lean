import UserPlane.Json.Number

/-! # Integers as JSON numbers

An integer is written as a sign and its own digits, which begin with a zero only for zero itself
(`Decimal.exists_digits_eq_cons_of_pos`). Such a text is a whole numeral wherever something follows
that does not go on with it (`Numeral.scan_signed`), and an integer of at most 64 bits is nowhere
near the range of doubles, since all its digits go into the significand (`Numeral.absorb_eq`). So
**a written integer denotes itself** (`Numeral.toJson_ofInt`). -/

namespace UserPlane

/-! ## Digits -/

namespace Decimal

/-- The digits of a number begin with one. -/
theorem exists_digits_eq_cons (n : Nat) :
    ∃ c cs, digits n = c :: cs ∧ c.isDigit = true := by
  cases hds : digits n with
  | nil => exact absurd hds (digits_ne_nil n)
  | cons c cs =>
    have hc : c ∈ digits n := hds ▸ List.mem_cons_self
    exact ⟨c, cs, rfl, isDigit_of_mem_digits hc⟩

/-- The digits of a number other than zero begin with another than zero. -/
theorem exists_digits_eq_cons_of_pos {n : Nat} (hn : 0 < n) :
    ∃ c cs, digits n = c :: cs ∧ c ≠ '0' := by
  induction n using Nat.strongRecOn with
  | ind n ih =>
    by_cases hsmall : n < 10
    · have hdigit : ∀ d < 10, 0 < d → Nat.digitChar d ≠ '0' := by decide
      exact ⟨_, [], Nat.toDigits_of_lt_base hsmall, hdigit n hsmall hn⟩
    · -- the first digit is that of the number without its last one
      have hle : 10 ≤ n := Nat.not_lt.mp hsmall
      obtain ⟨c, cs, hcs, hc⟩ := ih (n / 10) (by omega) (by omega)
      refine ⟨c, cs ++ [Nat.digitChar (n % 10)], ?_, hc⟩
      rw [digits, Nat.toDigits_of_base_le (by decide) hle]
      exact congrArg (· ++ _) hcs

/-- Digits make up their number, without a bound on it. -/
theorem ofDigitChars_digits (n : Nat) : Nat.ofDigitChars 10 (digits n) 0 = n :=
  Nat.ofDigitChars_ten_toDigits

end Decimal

namespace Json.Numeral

/-! ## Scanning what is written -/

/-- What comes after a numeral and does not go on with it. -/
def Ends (rest : List Char) : Prop :=
  ∀ c cs, rest = c :: cs → c.isDigit = false ∧ c ≠ '.' ∧ c ≠ 'e' ∧ c ≠ 'E'

/-- Nothing goes on with a numeral at the end of the text. -/
theorem ends_nil : Ends [] := by
  intro c cs h
  cases h

/-- The characters that come after a value do not go on with a numeral. -/
theorem ends_of_mem {c : Char} (hc : c ∈ [',', ']', '}', '\n']) (cs : List Char) :
    Ends (c :: cs) := by
  have hmarks : ∀ d ∈ [',', ']', '}', '\n'], d.isDigit = false ∧ d ≠ '.' ∧ d ≠ 'e' ∧ d ≠ 'E' := by
    simp [Char.isDigit]
  rintro _ _ ⟨⟩
  exact hmarks c hc

variable {rest : List Char}

/-- A run of digits is taken up to what ends it. -/
theorem scanDigits_append {ds : List Char} (hne : ds ≠ []) (hdigits : ∀ c ∈ ds, c.isDigit = true)
    (hrest : Ends rest) : scanDigits (ds ++ rest) = some (ds, rest) := by
  have htake : rest.takeWhile Char.isDigit = [] ∧ rest.dropWhile Char.isDigit = rest := by
    cases rest with
    | nil => exact ⟨rfl, rfl⟩
    | cons c cs =>
      obtain ⟨hc, -⟩ := hrest c cs rfl
      simp [hc]
  rw [scanDigits, List.takeWhile_append_of_pos hdigits, List.dropWhile_append_of_pos hdigits,
    htake.1, htake.2, List.append_nil]
  simp [hne]

/-- The digits of a number are taken as a whole. -/
theorem scanWhole_digits (n : Nat) (hrest : Ends rest) :
    scanWhole (Decimal.digits n ++ rest) = some (Decimal.digits n, rest) := by
  by_cases hn : n = 0
  · rw [hn]
    rfl
  · obtain ⟨c, cs, hcs, hc⟩ := Decimal.exists_digits_eq_cons_of_pos (Nat.pos_of_ne_zero hn)
    have hdigits := scanDigits_append (Decimal.digits_ne_nil n)
      (fun _ hmem => Decimal.isDigit_of_mem_digits hmem) hrest
    rw [hcs, List.cons_append] at hdigits ⊢
    unfold scanWhole
    split
    · rename_i h
      injection h with hzero
      exact absurd hzero hc
    · exact hdigits

/-- Without a point there is no fraction. -/
theorem scanFraction_of_ends (hrest : Ends rest) : scanFraction rest = some (none, rest) := by
  unfold scanFraction
  split
  · obtain ⟨-, hpoint, -⟩ := hrest _ _ rfl
    exact absurd rfl hpoint
  · rfl

/-- Without its letter there is no exponent. -/
theorem scanExponent_of_ends (hrest : Ends rest) : scanExponent rest = some (none, rest) := by
  cases rest with
  | nil => rfl
  | cons c cs =>
    obtain ⟨-, -, hlower, hupper⟩ := hrest c cs rfl
    rw [scanExponent, if_neg (not_or.mpr ⟨hlower, hupper⟩)]

/-- Digits do not begin with a minus sign. -/
theorem scanMinus_digits (n : Nat) :
    scanMinus (Decimal.digits n ++ rest) = (false, Decimal.digits n ++ rest) := by
  have hminus : ∀ cs, Decimal.digits n ++ rest ≠ '-' :: cs := by
    intro cs h
    obtain ⟨d, ds, hds, hd⟩ := Decimal.exists_digits_eq_cons n
    rw [hds, List.cons_append] at h
    injection h with hc
    rw [hc] at hd
    exact absurd hd (by decide)
  unfold scanMinus
  split
  · rename_i cs h
    exact absurd h (hminus cs)
  · rfl

/-- The numeral that an integer is written as. -/
def ofInt (n : Int) : Numeral where
  negative := decide (n < 0)
  whole := Decimal.digits n.natAbs
  fraction := none
  exponent := none

/-- **A written integer is scanned as a whole.** -/
theorem scan_signed (n : Int) (hrest : Ends rest) :
    scan (Decimal.signed n ++ rest) = some (ofInt n, rest) := by
  cases n with
  | ofNat n =>
    rw [Decimal.signed, scan]
    simp only [scanMinus_digits, scanWhole_digits n hrest, scanFraction_of_ends hrest,
      scanExponent_of_ends hrest, Option.bind_eq_bind, Option.bind_some]
    rfl
  | negSucc n =>
    have hneg : decide (Int.negSucc n < 0) = true := decide_eq_true (Int.negSucc_lt_zero n)
    rw [Decimal.signed, List.cons_append, scan, ofInt, hneg]
    simp only [scanMinus, scanWhole_digits (n + 1) hrest, scanFraction_of_ends hrest,
      scanExponent_of_ends hrest, Option.bind_eq_bind, Option.bind_some]
    rfl

/-! ## What a scanned integer denotes -/

/-- More digits never make a number smaller. -/
theorem le_ofDigitChars (ds : List Char) (n : Nat) : n ≤ Nat.ofDigitChars 10 ds n := by
  induction ds generalizing n with
  | nil => exact Nat.le_refl n
  | cons d ds ih =>
    rw [Nat.ofDigitChars_cons]
    exact Nat.le_trans (by omega) (ih _)

/-- Digits all go into a significand that has room for their number. -/
theorem absorb_eq {ds : List Char} {n : Nat} (h : Nat.ofDigitChars 10 ds n < UInt64.size) :
    absorb n ds = (Nat.ofDigitChars 10 ds n, []) := by
  induction ds generalizing n with
  | nil => rfl
  | cons d ds ih =>
    rw [Nat.ofDigitChars_cons] at h ⊢
    have hnext : n * 10 + (d.toNat - '0'.toNat) = 10 * n + (d.toNat - '0'.toNat) := by omega
    rw [absorb]
    simp only [hnext]
    rw [if_pos (Nat.lt_of_le_of_lt (le_ofDigitChars ds _) h), ih h]

variable {n : Int}

/-- An integer of 64 bits is within the range of doubles. -/
theorem overflows_ofInt (hn : n.natAbs < UInt64.size) : (ofInt n).overflows = false := by
  have hdigits := Decimal.ofDigitChars_digits n.natAbs
  have habsorb : absorb 0 (Decimal.digits n.natAbs) = (n.natAbs, []) := by
    rw [absorb_eq (by rwa [hdigits]), hdigits]
  have hsignificand : (ofInt n).significand = (n.natAbs, 0) := by
    simp [significand, ofInt, habsorb, absorb, power]
  rw [overflows, hsignificand]
  rfl

/-- The digits of an integer and its sign make it up. -/
theorem integer?_ofInt (n : Int) : (ofInt n).integer? = some n := by
  have hdigits := Decimal.ofDigitChars_digits n.natAbs
  rw [integer?]
  simp only [ofInt, hdigits, Option.isSome_none, Bool.or_self, decide_eq_true_eq]
  by_cases hneg : n < 0
  · rw [if_neg Bool.false_ne_true, if_pos hneg, if_neg (by omega), Option.some.injEq]
    omega
  · rw [if_neg Bool.false_ne_true, if_neg hneg, Option.some.injEq]
    omega

/-- **A written integer denotes itself**, if it has at most 64 bits. -/
theorem toJson_ofInt (hn : n.natAbs < UInt64.size) : (ofInt n).toJson = .integer n := by
  rw [toJson, overflows_ofInt hn, if_neg Bool.false_ne_true, integer?_ofInt]

end Json.Numeral

end UserPlane
