/-! # Decimal numerals

Numbers as the user plane writes them: **`digits`** gives the digits of a natural number without
leading zeros, **`signed`** puts a minus sign before those of a negative integer, and **`value?`**
reads any nonempty run of digits, leading zeros included. Reading what was written gives the
number back (`value?_digits`). -/

namespace UserPlane.Decimal

/-- The digits of a number, without leading zeros; zero is a single `0`. -/
def digits (n : Nat) : List Char := Nat.toDigits 10 n

/-- The digits of an integer, after a minus sign if it is negative. -/
def signed : Int → List Char
  | .ofNat n => digits n
  | .negSucc n => '-' :: digits (n + 1)

/-- The text of a number. -/
def text (n : Nat) : String := String.ofList (digits n)

/-- The text of an integer. -/
def signedText (n : Int) : String := String.ofList (signed n)

/-- The number that a nonempty run of digits denotes; anything else denotes none. -/
def value? (cs : List Char) : Option Nat :=
  if !cs.isEmpty && cs.all Char.isDigit then some (Nat.ofDigitChars 10 cs 0) else none

/-! ## Written numbers read back -/

/-- A number has at least one digit. -/
theorem digits_ne_nil (n : Nat) : digits n ≠ [] := Nat.toDigits_ne_nil

/-- Every character of a written number is a digit. -/
theorem isDigit_of_mem_digits {n : Nat} {c : Char} (h : c ∈ digits n) : c.isDigit = true :=
  Nat.isDigit_of_mem_toDigits (by decide) (by decide) h

/-- A written number reads back as itself. -/
@[simp] theorem value?_digits (n : Nat) : value? (digits n) = some n := by
  have hall : (digits n).all Char.isDigit = true :=
    List.all_eq_true.2 fun _ h => isDigit_of_mem_digits h
  have hne : (digits n).isEmpty = false := by
    simpa using digits_ne_nil n
  rw [value?, hne, hall]
  simp [digits]

end UserPlane.Decimal
