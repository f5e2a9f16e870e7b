/-! # Hexadecimal digits

Digits are written in lower case (**`digit`**) and read in either case (**`value?`**); a byte is
two digits, the high one first (**`ofByte`**). -/

namespace UserPlane.Hexadecimal

/-- The lower-case digit of a value below sixteen. -/
def digit (n : Nat) : Char := Nat.digitChar n

/-- The value of a digit of either case. -/
def value? (c : Char) : Option Nat :=
  if '0' ≤ c ∧ c ≤ '9' then some (c.toNat - '0'.toNat)
  else if 'a' ≤ c ∧ c ≤ 'f' then some (c.toNat - 'a'.toNat + 10)
  else if 'A' ≤ c ∧ c ≤ 'F' then some (c.toNat - 'A'.toNat + 10)
  else none

/-- The two digits of a byte, the high one first. -/
def ofByte (b : UInt8) : List Char := [digit (b.toNat / 16), digit (b.toNat % 16)]

/-- The number that four digits denote, as an escaped character unit has them. -/
def unit? (a b c d : Char) : Option Nat := do
  let a ← value? a
  let b ← value? b
  let c ← value? c
  let d ← value? d
  some (((a * 16 + b) * 16 + c) * 16 + d)

/-! ## Written digits read back -/

/-- A written digit reads back as its value. -/
theorem value?_digit : ∀ n < 16, value? (digit n) = some n := by decide

/-- A digit's value is below sixteen. -/
theorem value?_lt {c : Char} {n : Nat} (h : value? c = some n) : n < 16 := by
  unfold value? at h
  split at h
  · rename_i hc
    obtain ⟨-, hc⟩ := hc
    have : c.toNat ≤ 57 := hc
    injection h with h
    have : '0'.toNat = 48 := rfl
    omega
  · split at h
    · rename_i hc
      obtain ⟨-, hc⟩ := hc
      have : c.toNat ≤ 102 := hc
      injection h with h
      have : 'a'.toNat = 97 := rfl
      omega
    · split at h
      · rename_i hc
        obtain ⟨-, hc⟩ := hc
        have : c.toNat ≤ 70 := hc
        injection h with h
        have : 'A'.toNat = 65 := rfl
        omega
      · cases h

end UserPlane.Hexadecimal
