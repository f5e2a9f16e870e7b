import UserPlane.Json.Wire
import UserPlane.Proofs.Text.Prefix

/-! # Which addresses a prefix contains

The bits of an address are counted from the highest one on (`Address.bit`). The prefix of some
length around an address keeps so many **first bits** of it and clears the others, and it contains
the addresses that agree with it on these bits (`Prefix.contains_iff`). A shorter prefix contains an
address that a longer one does not, one that differs from its network right behind its own bits; so
**two prefixes with the same addresses are the same prefix** (`Prefix.eq_iff_contains`). -/

namespace UserPlane

/-! ## The bits of an address -/

namespace Address

/-- The bit of an address at a place; the first place is the one of the highest bit. -/
def bit (a : Address) (i : Nat) : Bool := a.bits.toBitVec.getMsbD i

/-- Two addresses have the same first bits, so many of them. -/
def AgreesOn (x : Address) (count : Nat) (a : Address) : Prop := ∀ i < count, x.bit i = a.bit i

/-- The address with the bit at a place inverted. -/
def flip (a : Address) (i : Nat) : Address :=
  ⟨.ofBitVec (a.bits.toBitVec ^^^ BitVec.twoPow 32 (31 - i))⟩

/-- An address is its 32 bits. -/
theorem eq_of_bit_eq {a b : Address} (h : ∀ i < 32, a.bit i = b.bit i) : a = b := by
  obtain ⟨m⟩ := a
  obtain ⟨n⟩ := b
  rw [mk.injEq]
  apply UInt32.toBitVec_inj.mp
  exact BitVec.eq_of_getMsbD_eq h

/-- The conjunction of two words has the bits that both have. -/
theorem bit_and (m n : UInt32) (i : Nat) :
    (mk (m &&& n)).bit i = ((mk m).bit i && (mk n).bit i) := by
  simp only [bit, UInt32.toBitVec_and, BitVec.getMsbD_and]

/-- Inverting a bit of an address changes no other bit. -/
theorem bit_flip (a : Address) {i : Nat} (hi : i < 32) (j : Nat) :
    (a.flip i).bit j = (a.bit j ^^ decide (j = i)) := by
  have hplace : (j = 32 - (31 - i) - 1) = (j = i) := by
    apply propext
    omega
  have hin : 31 - i < 32 := by omega
  simp only [bit, flip, BitVec.getMsbD_xor, BitVec.getMsbD_twoPow, hplace, hin, decide_true,
    Bool.true_and]

end Address

namespace Prefix

/-! ## The mask -/

section Mask

variable {length : UInt8}

/-- The mask of a length has so many first bits set, and no others. -/
theorem bit_mask (hlength : length ≤ maxLength) (i : Nat) :
    (Address.mk (mask length)).bit i = decide (i < length.toNat) := by
  have hle : length.toNat ≤ 32 := hlength
  have htest : (mask length).toBitVec.getLsbD (32 - 1 - i) =
      (mask length).toNat.testBit (32 - 1 - i) := rfl
  rw [Address.bit, BitVec.getMsbD_eq_getLsbD, htest, testBit_mask hlength, hostBits]
  rw [← Bool.decide_and, ← Bool.decide_and, decide_eq_decide]
  omega

/-- Nothing goes out of range on the way to a mask. -/
structure MaskInRange (length : UInt8) : Prop where
  /-- The number of host bits does not fall below zero. -/
  hostBits_eq : (maxLength - length).toNat = 32 - length.toNat ∧ length.toNat ≤ 32
  /-- The ones are shifted by fewer places than a word has. Only where none is to be left are there
  as many host bits, and then nothing is shifted. -/
  shift_eq : (maxLength - length).toNat < 32 ∧
      mask length = 0xffffffff <<< (maxLength - length).toUInt32 ∨
    length = 0 ∧ mask length = 0
  /-- What results are so many first bits. -/
  bit_eq : ∀ i, (Address.mk (mask length)).bit i = decide (i < length.toNat)

/-- For a length that a prefix has, nothing goes out of range on the way to its mask. -/
theorem maskInRange (hlength : length ≤ maxLength) : MaskInRange length where
  hostBits_eq := ⟨UInt8.toNat_sub_of_le _ _ hlength, hlength⟩
  shift_eq := by
    have hhost : (maxLength - length).toNat = 32 - length.toNat :=
      UInt8.toNat_sub_of_le _ _ hlength
    rw [mask]
    by_cases hzero : length = 0
    · -- here a shift by all the bits would be needed, and none is made
      subst hzero
      exact Or.inr ⟨rfl, rfl⟩
    · have hpos : length.toNat ≠ 0 := fun h => hzero (UInt8.toNat_inj.mp h)
      have hlt : (maxLength - length).toNat < 32 := by omega
      exact Or.inl ⟨hlt, if_pos (UInt8.lt_iff_toNat_lt.mpr hlt)⟩
  bit_eq := bit_mask hlength

end Mask

/-! ## Members -/

section Members

variable {p q : Prefix} {address x : Address} {length : UInt8}

/-- The prefix around an address has the length, and of the address the bits within it. -/
theorem bit_network_of_around (h : around address length = .ok p) :
    p.length = length ∧ ∀ i, p.network.bit i = (decide (i < length.toNat) && address.bit i) := by
  rw [around] at h
  split at h
  · rename_i hlength
    cases h
    refine ⟨rfl, fun i => ?_⟩
    rw [Address.bit_and, bit_mask hlength, Bool.and_comm]
  · cases h

/-- Beyond its length, a prefix has no bits. -/
theorem bit_network (p : Prefix) (i : Nat) :
    p.network.bit i = (decide (i < p.length.toNat) && p.network.bit i) :=
  (bit_network_of_around p.around_network).2 i

/-- **A prefix contains the addresses that agree with it on its bits.** -/
theorem contains_iff : p.contains x = true ↔ x.AgreesOn p.length.toNat p.network := by
  have hmasked : ∀ i, (Address.mk (x.bits &&& mask p.length)).bit i =
      (decide (i < p.length.toNat) && x.bit i) := by
    intro i
    rw [Address.bit_and, bit_mask p.length_le, Bool.and_comm]
  rw [contains, beq_iff_eq]
  constructor
  · intro h i hi
    have hbit := hmasked i
    rw [h, decide_eq_true hi, Bool.true_and] at hbit
    exact hbit.symm
  · intro h
    have heq : Address.mk (x.bits &&& mask p.length) = p.network := by
      apply Address.eq_of_bit_eq
      intro i _
      -- within the length both agree, and beyond it both are zero
      rw [hmasked, bit_network]
      by_cases hi : i < p.length.toNat
      · rw [h i hi]
      · rw [decide_eq_false hi, Bool.false_and, Bool.false_and]
    exact congrArg Address.bits heq

/-- The prefix around an address contains what agrees with the address. -/
theorem contains_iff_of_around (h : around address length = .ok p) :
    p.contains x = true ↔ x.AgreesOn length.toNat address := by
  obtain ⟨hlength, hbits⟩ := bit_network_of_around h
  rw [contains_iff, hlength]
  apply forall₂_congr
  intro i hi
  rw [hbits, decide_eq_true hi, Bool.true_and]

/-- A prefix that contains all that another one does is no longer. -/
theorem length_le_of_contains (h : ∀ x, p.contains x = true → q.contains x = true) :
    q.length.toNat ≤ p.length.toNat := by
  by_contra hlonger
  have hlt : p.length.toNat < q.length.toNat := Nat.not_le.mp hlonger
  have hplace : p.length.toNat < 32 := lt_of_lt_of_le hlt q.toNat_length_le
  -- the address that differs from the network in the first bit that is free in the other one
  have hflip : p.contains (p.network.flip p.length.toNat) = true := by
    rw [contains_iff]
    intro i hi
    rw [Address.bit_flip _ hplace, decide_eq_false (Nat.ne_of_lt hi), Bool.xor_false]
  have hnetwork := contains_iff.mp (h _ p.contains_network) _ hlt
  have hother := contains_iff.mp (h _ hflip) _ hlt
  rw [Address.bit_flip _ hplace, ← hnetwork, decide_eq_true rfl, Bool.xor_true] at hother
  exact Bool.not_ne_self _ hother

/-- **Two prefixes are equal exactly if they contain the same addresses.** -/
theorem eq_iff_contains : p = q ↔ ∀ x, p.contains x = q.contains x := by
  constructor
  · rintro rfl x
    rfl
  · intro h
    have hlength : p.length.toNat = q.length.toNat := by
      apply Nat.le_antisymm
      · exact length_le_of_contains fun x hx => (h x).trans hx
      · exact length_le_of_contains fun x hx => (h x).symm.trans hx
    -- each network is a member of both, so they agree as far as the common length reaches
    have hagrees : p.network.AgreesOn q.length.toNat q.network :=
      contains_iff.mp ((h p.network).symm.trans p.contains_network)
    apply Prefix.ext
    · apply Address.eq_of_bit_eq
      intro i _
      rw [bit_network p, bit_network q, hlength]
      by_cases hi : i < q.length.toNat
      · rw [hagrees i hi]
      · rw [decide_eq_false hi, Bool.false_and, Bool.false_and]
    · exact UInt8.toNat_inj.mp hlength

end Members

/-! ## Prefixes that are read -/

/-- A prefix is read from a JSON string as from a text. -/
theorem ofJson?_eq_some_iff {json : Json} {p : Prefix} :
    ofJson? json = some p ↔ ∃ s, json = .string s ∧ ofText s = .ok p := by
  have htext : ∀ s, (ofText s).toOption = some p ↔ ofText s = .ok p := by
    intro s
    cases ofText s with
    | ok q => simp [Except.toOption]
    | error e => simp [Except.toOption]
  cases json with
  | string s => simp [ofJson?, Json.string?, htext]
  | _ => simp [ofJson?, Json.string?]

/-- **Prefixes are what they contain.** Around an address there is a prefix of every length that an
address has bits for, and of no other: it has the first bits of the address, so many of them, and
contains the addresses that agree on these. A prefix that is read, from a text or from a JSON value,
is one around the address that is spelled. Two prefixes are equal exactly if they contain the same
addresses, a prefix is the one around its own network, and nothing goes out of range on the way to
its mask. -/
theorem contains_iff_agreesOn_and_canonical :
    (∀ (address : Address) (length : UInt8),
      32 < length.toNat ∧ around address length = .error (.lengthTooLarge length) ∨
      length.toNat ≤ 32 ∧ ∃ p, around address length = .ok p ∧ p.length = length ∧
        (∀ i, p.network.bit i = (decide (i < length.toNat) && address.bit i)) ∧
        ∀ x, p.contains x = true ↔ x.AgreesOn length.toNat address) ∧
    (∀ s p, ofText s = .ok p ↔
      ∃ address length, Spells s address (UInt8.toNat length) ∧ around address length = .ok p) ∧
    (∀ json p, ofJson? json = some p ↔ ∃ s, json = .string s ∧ ofText s = .ok p) ∧
    (∀ p q : Prefix, p = q ↔ ∀ x, p.contains x = q.contains x) ∧
    ∀ p : Prefix, around p.network p.length = .ok p ∧ MaskInRange p.length := by
  refine ⟨?_, fun _ _ => ofText_eq_ok_iff, fun _ _ => ofJson?_eq_some_iff,
    fun _ _ => eq_iff_contains, fun p => ⟨p.around_network, maskInRange p.length_le⟩⟩
  intro address length
  cases h : around address length with
  | error e =>
    obtain ⟨hlarge, rfl⟩ := around_eq_error_iff.mp h
    exact Or.inl ⟨hlarge, rfl⟩
  | ok p =>
    obtain ⟨hlength, hbits⟩ := bit_network_of_around h
    refine Or.inr ⟨?_, p, rfl, hlength, hbits, fun x => contains_iff_of_around h⟩
    rw [← hlength]
    exact p.toNat_length_le

/-- Of the length zero, where a shift by all the bits would be out of range, the prefix contains
every address. -/
example : ∃ p, around ⟨0xffffffff⟩ 0 = .ok p ∧ p.network = ⟨0⟩ ∧ p.contains ⟨0x08080808⟩ = true :=
  ⟨_, rfl, rfl, rfl⟩

end Prefix

end UserPlane
