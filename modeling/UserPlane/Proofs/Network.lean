import UserPlane.Proofs.Outcome
import UserPlane.Prefix
import Mathlib.Algebra.Order.Ring.Nat

/-! # Prefixes as numbers

A prefix is determined by two numbers, its length and that of its network, and `Prefix.IsAround`
says which: the network of **the prefix of some length around an address** is the address rounded
down to a multiple of `2 ^ (32 - length)`. The mask does exactly this rounding (`toNat_and_mask`),
for every length from 0 to 32. -/

namespace UserPlane.Prefix

/-- How many bits of an address lie beyond a length. -/
def hostBits (length : Nat) : Nat := 32 - length

/-- The prefix has the given length, and its network is the number with all bits beyond that
length cleared. -/
def IsAround (p : Prefix) (number length : Nat) : Prop :=
  p.length.toNat = length ∧
    p.network.bits.toNat = number / 2 ^ hostBits length * 2 ^ hostBits length

/-- A prefix has at most as many bits as an address. -/
theorem toNat_length_le (p : Prefix) : p.length.toNat ≤ 32 := p.length_le

/-- The mask is set at the places of an address that belong to the prefix, and nowhere else. -/
theorem testBit_mask {length : UInt8} (hlength : length ≤ maxLength) (i : Nat) :
    (mask length).toNat.testBit i = (decide (hostBits length.toNat ≤ i) && decide (i < 32)) := by
  have hle : length.toNat ≤ 32 := hlength
  have hhost : (maxLength - length).toNat = hostBits length.toNat :=
    UInt8.toNat_sub_of_le _ _ hlength
  have hsmall : hostBits length.toNat ≤ 32 := Nat.sub_le _ _
  rw [mask]
  by_cases hzero : hostBits length.toNat = 32
  · -- a shift by all the bits of the word leaves nothing
    rw [if_neg (by rw [UInt8.lt_iff_toNat_lt, hhost, hzero]; decide), hzero, UInt32.toNat_zero,
      Nat.zero_testBit]
    have hout : ¬(32 ≤ i ∧ i < 32) := by omega
    rw [← Bool.decide_and, decide_eq_false hout]
  · have hlt : hostBits length.toNat < 32 := by omega
    have hshift : (maxLength - length).toUInt32.toNat % 32 = hostBits length.toNat := by
      rw [UInt8.toNat_toUInt32, hhost, Nat.mod_eq_of_lt hlt]
    have hones : (0xffffffff : UInt32).toNat = 2 ^ 32 - 1 := rfl
    rw [if_pos (by rw [UInt8.lt_iff_toNat_lt, hhost]; exact hlt), UInt32.toNat_shiftLeft, hshift,
      Nat.testBit_mod_two_pow, Nat.testBit_shiftLeft, hones, Nat.testBit_two_pow_sub_one]
    rw [← Bool.decide_and, ← Bool.decide_and, ← Bool.decide_and, decide_eq_decide]
    omega

/-- **Masking rounds down**: it clears exactly the bits beyond the length. -/
theorem toNat_and_mask {length : UInt8} (hlength : length ≤ maxLength) (word : UInt32) :
    (word &&& mask length).toNat =
      word.toNat / 2 ^ hostBits length.toNat * 2 ^ hostBits length.toNat := by
  apply Nat.eq_of_testBit_eq
  intro i
  rw [UInt32.toNat_and, Nat.testBit_and, testBit_mask hlength, Nat.testBit_mul_two_pow,
    Nat.testBit_div_two_pow]
  by_cases hi : hostBits length.toNat ≤ i
  · rw [Nat.sub_add_cancel hi]
    by_cases hword : i < 32
    · simp [hi, hword]
    · have hbit : word.toNat.testBit i = false := by
        apply Nat.testBit_lt_two_pow
        exact lt_of_lt_of_le word.toNat_lt (Nat.pow_le_pow_right (by decide) (not_lt.mp hword))
      rw [hbit, Bool.false_and, Bool.and_false]
  · rw [decide_eq_false hi, Bool.false_and, Bool.and_false, Bool.false_and]

/-- A number that is no address is not rounded down to one. -/
theorem lt_of_rounded_lt {number length : Nat}
    (h : number / 2 ^ hostBits length * 2 ^ hostBits length < 2 ^ 32) :
    number < 2 ^ 32 := by
  have hle : hostBits length ≤ 32 := Nat.sub_le _ _
  have hsplit : 2 ^ 32 = 2 ^ (32 - hostBits length) * 2 ^ hostBits length := by
    rw [← Nat.pow_add, Nat.sub_add_cancel hle]
  rw [hsplit] at h ⊢
  have hquotient : number / 2 ^ hostBits length < 2 ^ (32 - hostBits length) :=
    Nat.lt_of_mul_lt_mul_right h
  exact (Nat.div_lt_iff_lt_mul (Nat.two_pow_pos _)).mp hquotient

/-- The prefix of a length around an address is the one that its number is rounded down to. -/
theorem around_eq_ok_iff {address : Address} {length : UInt8} {p : Prefix} :
    around address length = .ok p ↔ p.IsAround address.bits.toNat length.toNat := by
  constructor
  · intro h
    rw [around] at h
    split at h
    · rename_i hlength
      cases h
      exact ⟨rfl, toNat_and_mask hlength address.bits⟩
    · cases h
  · rintro ⟨hlength, hnetwork⟩
    have hlen : p.length = length := UInt8.toNat_inj.mp hlength
    have hle : length ≤ maxLength := hlen ▸ p.length_le
    have hbits : p.network = ⟨address.bits &&& mask length⟩ := by
      have h : p.network.bits = address.bits &&& mask length := by
        rw [← UInt32.toNat_inj, toNat_and_mask hle, hnetwork]
      rw [← h]
    rw [around, dif_pos hle, Except.ok.injEq]
    exact Prefix.ext hbits.symm hlen.symm

/-- Around an address there is no prefix of more bits than an address has, and of any other length
there is one. -/
theorem around_eq_error_iff {address : Address} {length : UInt8} {e : NetworkError} :
    around address length = .error e ↔ 32 < length.toNat ∧ e = .lengthTooLarge length := by
  have hlength : length ≤ maxLength ↔ length.toNat ≤ 32 := UInt8.le_iff_toNat_le
  rw [around]
  split
  · rename_i hle
    refine iff_of_false ?_ fun h => absurd (hlength.mp hle) (Nat.not_le.mpr h.1)
    intro h
    cases h
  · rename_i hle
    rw [Except.error.injEq]
    constructor
    · rintro rfl
      exact ⟨Nat.not_le.mp (mt hlength.mpr hle), rfl⟩
    · rintro ⟨-, he⟩
      exact he.symm

/-- A prefix is the one around its own network. -/
theorem isAround_self (p : Prefix) : p.IsAround p.network.bits.toNat p.length.toNat :=
  around_eq_ok_iff.mp p.around_network

/-- The network of a prefix has no bits beyond the prefix's length. -/
theorem testBit_network (p : Prefix) {i : Nat} (hi : i < hostBits p.length.toNat) :
    p.network.bits.toNat.testBit i = false := by
  obtain ⟨-, hnetwork⟩ := p.isAround_self
  rw [hnetwork, Nat.testBit_mul_two_pow, decide_eq_false (not_le.mpr hi), Bool.false_and]

end UserPlane.Prefix
