import UserPlane.Proofs.Json.Number
import Mathlib.Data.List.Induction

/-! # Which texts are numerals

A **numeral** is a digit, or a numeral with a digit behind it, which then counts ten times as much
(`Decimal.Numeral`). The reader takes exactly the numerals and gives their value
(`Decimal.value?_eq_some_iff`), with any zeros in front. Of all numerals of a number only one has no
zero in front, and this is what the number is written as (`Decimal.digits_eq_iff`). -/

namespace UserPlane.Decimal

/-- Characters that are a decimal numeral of a number. -/
inductive Numeral : List Char → Nat → Prop where
  /-- A digit stands for a number below ten. -/
  | digit {d : Nat} (hd : d < 10) : Numeral [Nat.digitChar d] d
  /-- A digit behind a numeral takes the lowest place. -/
  | append {cs : List Char} {n d : Nat} (h : Numeral cs n) (hd : d < 10) :
    Numeral (cs ++ [Nat.digitChar d]) (10 * n + d)

/-- There is no zero in front, unless it is the only digit. -/
def NoZeroInFront (cs : List Char) : Prop := cs.head? = some '0' → cs = ['0']

instance (cs : List Char) : Decidable (NoZeroInFront cs) := inferInstanceAs (Decidable (_ → _))

/-! ## Digits -/

/-- A digit is the character of a number below ten. -/
theorem isDigit_iff {c : Char} : c.isDigit = true ↔ ∃ d < 10, c = Nat.digitChar d := by
  constructor
  · intro h
    obtain ⟨hlow, hhigh⟩ : 48 ≤ c.toNat ∧ c.toNat ≤ 57 := by
      simpa [Char.isDigit, UInt32.le_iff_toNat_le] using h
    refine ⟨c.toNat - 48, by omega, ?_⟩
    apply Char.toNat_inj.mp
    rw [Nat.toNat_digitChar_of_lt_ten (by omega)]
    omega
  · rintro ⟨d, hd, rfl⟩
    have hall : ∀ d < 10, (Nat.digitChar d).isDigit = true := by decide
    exact hall d hd

/-- The last digit has the lowest place. -/
theorem ofDigitChars_concat (cs : List Char) {d : Nat} (hd : d < 10) :
    Nat.ofDigitChars 10 (cs ++ [Nat.digitChar d]) 0 = 10 * Nat.ofDigitChars 10 cs 0 + d := by
  rw [Nat.ofDigitChars_append, Nat.ofDigitChars_cons_digitChar_of_lt_ten hd, Nat.ofDigitChars_nil]

namespace Numeral

variable {cs : List Char} {n : Nat}

/-- A numeral has at least one digit. -/
theorem ne_nil (h : Numeral cs n) : cs ≠ [] := by
  cases h with
  | digit hd => simp
  | append h hd => simp

/-- All characters of a numeral are digits. -/
theorem isDigit_of_mem (h : Numeral cs n) : ∀ c ∈ cs, c.isDigit = true := by
  induction h with
  | digit hd => simpa using isDigit_iff.mpr ⟨_, hd, rfl⟩
  | append h hd ih =>
    intro c hc
    rcases List.mem_append.mp hc with hc | hc
    · exact ih c hc
    · rw [List.mem_singleton.mp hc]
      exact isDigit_iff.mpr ⟨_, hd, rfl⟩

/-- Nothing that is no digit stands in a numeral. -/
theorem not_mem (h : Numeral cs n) {c : Char} (hc : c.isDigit = false) : c ∉ cs := by
  intro hmem
  rw [h.isDigit_of_mem c hmem] at hc
  cases hc

/-- The value of a numeral is that of its digits. -/
theorem ofDigitChars_eq (h : Numeral cs n) : Nat.ofDigitChars 10 cs 0 = n := by
  induction h with
  | digit hd => simp [Nat.ofDigitChars_cons_digitChar_of_lt_ten hd]
  | append h hd ih => rw [ofDigitChars_concat _ hd, ih]

/-- Digits are a numeral of their value. -/
theorem of_forall_isDigit (hne : cs ≠ []) (hall : ∀ c ∈ cs, c.isDigit = true) :
    Numeral cs (Nat.ofDigitChars 10 cs 0) := by
  -- a numeral grows at its end, and so does the induction
  induction cs using List.reverseRecOn with
  | nil => exact absurd rfl hne
  | append_singleton cs c ih =>
    obtain ⟨d, hd, rfl⟩ := isDigit_iff.mp (hall c (by simp))
    rw [ofDigitChars_concat cs hd]
    by_cases hcs : cs = []
    · subst hcs
      simpa using Numeral.digit hd
    · exact .append (ih hcs fun c hc => hall c (by simp [hc])) hd

/-- **Without a zero in front, a numeral is what its number is written as.** -/
theorem digits_eq (h : Numeral cs n) (hfront : NoZeroInFront cs) : digits n = cs := by
  induction h with
  | digit hd => exact Nat.toDigits_of_lt_base hd
  | @append cs n d h hd ih =>
    obtain ⟨first, rest, rfl⟩ := List.exists_cons_of_ne_nil h.ne_nil
    -- the digit in front is not the only one, so it is no zero
    have hfirst : first ≠ '0' := by
      rintro rfl
      have hsingle := hfront rfl
      simp at hsingle
    have hbefore : digits n = first :: rest := ih fun hzero => absurd (Option.some.inj hzero) hfirst
    have hpos : 0 < n := by
      by_contra hzero
      obtain rfl : n = 0 := by omega
      exact hfirst (List.cons.inj hbefore).1.symm
    rw [← hbefore, digits, digits, ← Nat.toDigits_append_toDigits (by decide) hpos hd,
      Nat.toDigits_of_lt_base hd]

end Numeral

/-! ## Numbers -/

/-- **Characters have a value exactly if they are a numeral of it.** -/
theorem value?_eq_some_iff {cs : List Char} {n : Nat} : value? cs = some n ↔ Numeral cs n := by
  constructor
  · intro h
    unfold value? at h
    split at h
    · rename_i hdigits
      simp only [Bool.and_eq_true, Bool.not_eq_true', List.isEmpty_eq_false_iff,
        List.all_eq_true] at hdigits
      rw [← Option.some.inj h]
      exact .of_forall_isDigit hdigits.1 hdigits.2
    · cases h
  · intro h
    have hne : cs.isEmpty = false := by simpa using h.ne_nil
    have hall : cs.all Char.isDigit = true := List.all_eq_true.mpr h.isDigit_of_mem
    simp [value?, hne, hall, h.ofDigitChars_eq]

/-- **A number is written as its numeral without a zero in front.** -/
theorem digits_eq_iff {cs : List Char} {n : Nat} :
    digits n = cs ↔ Numeral cs n ∧ NoZeroInFront cs := by
  constructor
  · rintro rfl
    refine ⟨value?_eq_some_iff.mp (value?_digits n), ?_⟩
    intro hfront
    by_cases hn : n = 0
    · subst hn
      rfl
    · obtain ⟨c, cs, hcs, hc⟩ := exists_digits_eq_cons_of_pos (Nat.pos_of_ne_zero hn)
      rw [hcs] at hfront
      exact absurd (Option.some.inj hfront) hc
  · rintro ⟨h, hfront⟩
    exact h.digits_eq hfront

end UserPlane.Decimal
