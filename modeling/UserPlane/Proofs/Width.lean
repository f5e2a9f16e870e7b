import UserPlane.Proofs.Number
import Mathlib.Data.Nat.Digits.Defs

/-! # Numbers of some width

A byte string denotes a number to the base 256 (`ByteString.value_eq_ofDigits`), and each of its
readers is for numbers of so many bytes (`ByteString.Reads`): a number that fits is read, whatever
zeros stand in front of it, and of one that does not fit the bytes are given back. On the way the
bytes are shifted into a word and the word is cut to the width of the answer; neither step loses a
bit, since there are never more significant bytes than the width. So **a number that is written at
one width reads back at every width that can hold it** (`ByteString.reads_within_width`). -/

namespace UserPlane.ByteString

/-- A byte string denotes the number that has its bytes as digits to the base 256. -/
theorem value_eq_ofDigits (b : ByteString) :
    b.value = Nat.ofDigits 256 (b.bytes.map UInt8.toNat).reverse := by
  obtain ⟨bs⟩ := b
  show number bs = _
  induction bs with
  | nil => rfl
  | cons b bs ih =>
    rw [number_cons, ih, List.map_cons, List.reverse_cons, Nat.ofDigits_append,
      Nat.ofDigits_singleton, List.length_reverse, List.length_map]
    ring

/-! ## No bit is lost -/

/-- A byte goes into the eight low bits, which the shift has cleared. -/
theorem shiftIn_eq_or (word : UInt64) (byte : UInt8) :
    shiftIn word byte = (word <<< 8) ||| byte.toUInt64 := by
  have hbyte : byte.toNat < 2 ^ 8 := byte.toNat_lt
  have hor := Nat.two_pow_add_eq_or_of_lt hbyte (word.toNat % 2 ^ 56)
  rw [← UInt64.toNat_inj, shiftIn, UInt64.toNat_add, UInt64.toNat_mul, UInt64.toNat_or,
    UInt64.toNat_shiftLeft, UInt8.toNat_toUInt64]
  rw [show (256 : UInt64).toNat = 2 ^ 8 from rfl, show (8 : UInt64).toNat % 64 = 8 from rfl,
    Nat.shiftLeft_eq]
  -- the eight bits that are shifted out are cut off on both sides
  have hcut : word.toNat * 2 ^ 8 % 2 ^ 64 = 2 ^ 8 * (word.toNat % 2 ^ 56) := by omega
  rw [hcut, ← hor]
  omega

section Word

variable {b : ByteString} {width : Nat} {word : UInt64}

/-- A word that is read has room for the number. -/
theorem toNat_of_toWord (hwidth : width ≤ 8) (h : b.toWord width = .ok word) :
    b.value < 256 ^ width ∧ word.toNat = b.value := by
  rw [toWord_eq b hwidth] at h
  split at h
  · rename_i hlt
    have hword : b.value < 2 ^ 64 := lt_of_lt_of_le hlt (Nat.pow_le_pow_right (by decide) hwidth)
    rw [← Except.ok.inj h, UInt64.toNat_ofNat_of_lt' hword]
    exact ⟨hlt, rfl⟩
  · cases h

/-- At every step the word holds the number of the bytes that are in it. -/
theorem toNat_foldl_shiftIn_of_toWord (hwidth : width ≤ 8) (h : b.toWord width = .ok word)
    {front : List UInt8} (hfront : front <+: b.significant) :
    (front.foldl shiftIn 0).toNat = number front := by
  have hlength : b.significant.length ≤ width :=
    length_significant_le_iff.mpr (toNat_of_toWord hwidth h).1
  have hroom : front.length ≤ 8 := le_trans hfront.length_le (le_trans hlength hwidth)
  have hlt : number front < 2 ^ 64 :=
    lt_of_lt_of_le (number_lt front) (Nat.pow_le_pow_right (by decide) hroom)
  have hzero : (0 : UInt64).toNat * 256 ^ front.length + number front = number front := by
    rw [UInt64.toNat_zero, Nat.zero_mul, Nat.zero_add]
  rw [toNat_foldl_shiftIn (by rw [hzero]; exact hlt), hzero]

/-- A word that is cut to the width it was read at stays the number it was. -/
theorem toNat_mod_of_toWord (hwidth : width ≤ 8) (h : b.toWord width = .ok word) :
    word.toNat % 256 ^ width = word.toNat := by
  obtain ⟨hlt, hword⟩ := toNat_of_toWord hwidth h
  rw [hword, Nat.mod_eq_of_lt hlt]

end Word

/-! ## Readers -/

/-- A reader of numbers of so many bytes. -/
structure Reads {α : Type} (read : ByteString → Except Error α) (toNat : α → Nat) (width : Nat) :
    Prop where
  /-- The number is read exactly if so many bytes can hold it. -/
  fits : ∀ b, (∃ a, read b = .ok a ∧ toNat a = b.value) ↔ b.value < 2 ^ (8 * width)
  /-- Nothing but the number is read. -/
  agrees : ∀ b a, read b = .ok a → toNat a = b.value
  /-- Of a number that does not fit, the bytes and the width are reported. -/
  refuses : ∀ b e, read b = .error e ↔
    2 ^ (8 * width) ≤ b.value ∧ e = .doesNotFit b width ∧
      e.message = "byte sequence " ++ b.text ++ " does not fit in " ++ Decimal.text width ++
        " byte(s)"

/-- A reader that gives the number if it is small enough, and otherwise refuses, reads numbers of
that width. -/
theorem reads_of_eq {α : Type} {read : ByteString → Except Error α} {ofNat : Nat → α}
    {toNat : α → Nat} {width : Nat}
    (hread : ∀ b, read b =
      if b.value < 2 ^ (8 * width) then .ok (ofNat b.value) else .error (.doesNotFit b width))
    (hofNat : ∀ {n}, n < 2 ^ (8 * width) → toNat (ofNat n) = n) : Reads read toNat width where
  fits b := by
    rw [hread]
    split
    · rename_i hlt
      exact iff_of_true ⟨_, rfl, hofNat hlt⟩ hlt
    · rename_i hlt
      refine iff_of_false ?_ hlt
      rintro ⟨a, ha, -⟩
      cases ha
  agrees b a h := by
    rw [hread] at h
    split at h
    · rename_i hlt
      rw [← Except.ok.inj h, hofNat hlt]
    · cases h
  refuses b e := by
    rw [hread]
    split
    · rename_i hlt
      refine iff_of_false ?_ fun h => absurd hlt (Nat.not_lt.mpr h.1)
      intro h
      cases h
    · rename_i hlt
      rw [Except.error.injEq]
      constructor
      · rintro rfl
        exact ⟨Nat.not_lt.mp hlt, rfl, rfl⟩
      · rintro ⟨-, he, -⟩
        exact he.symm

/-- `toUInt8` reads numbers of one byte. -/
theorem reads_toUInt8 : Reads toUInt8 UInt8.toNat 1 :=
  reads_of_eq toUInt8_eq UInt8.toNat_ofNat_of_lt'

/-- `toUInt16` reads numbers of two bytes. -/
theorem reads_toUInt16 : Reads toUInt16 UInt16.toNat 2 :=
  reads_of_eq toUInt16_eq UInt16.toNat_ofNat_of_lt'

/-- `toUInt32` reads numbers of four bytes. -/
theorem reads_toUInt32 : Reads toUInt32 UInt32.toNat 4 :=
  reads_of_eq toUInt32_eq UInt32.toNat_ofNat_of_lt'

/-- `toAddress` reads numbers of four bytes. -/
theorem reads_toAddress : Reads toAddress (fun a => a.bits.toNat) 4 := by
  have hread : ∀ b, toAddress b =
      if b.value < 2 ^ (8 * 4) then .ok ⟨.ofNat b.value⟩ else .error (.doesNotFit b 4) := by
    intro b
    rw [toAddress, toUInt32_eq]
    split
    · rfl
    · rfl
  exact reads_of_eq hread UInt32.toNat_ofNat_of_lt'

/-! ## Writers -/

/-- The byte strings that numbers are written as. -/
inductive Writes : Nat → ByteString → Prop where
  /-- One byte. -/
  | byte (n : UInt8) : Writes n.toNat (ofUInt8 n)
  /-- Two bytes. -/
  | pair (n : UInt16) : Writes n.toNat (ofUInt16 n)
  /-- Four bytes. -/
  | word (n : UInt32) : Writes n.toNat (ofUInt32 n)
  /-- An address. -/
  | address (a : Address) : Writes a.bits.toNat (ofAddress a)

/-- What a number is written as denotes it. -/
theorem Writes.value_eq {n : Nat} {b : ByteString} (h : Writes n b) : b.value = n := by
  cases h with
  | byte n => exact value_ofUInt8 n
  | pair n => exact value_ofUInt16 n
  | word n => exact value_ofUInt32 n
  | address a => exact value_ofAddress a

/-- What is written reads back at every width that can hold it. -/
theorem Reads.back {α : Type} {read : ByteString → Except Error α} {toNat : α → Nat} {width : Nat}
    (hread : Reads read toNat width) {n : Nat} {b : ByteString} (h : Writes n b) :
    (∃ a, read b = .ok a ∧ toNat a = n) ↔ n < 2 ^ (8 * width) := by
  rw [← h.value_eq]
  exact hread.fits b

/-- **Readers give the number that the bytes denote.** A byte string denotes a number to the base
256, of any length and with any zeros in front. Each reader gives that number if it fits, and
otherwise reports the bytes and the width. The bytes are shifted into a word one after another,
which holds the number of those that are in it at every step, and cutting the word to its width
changes nothing. So what is written at one width reads back at every width that can hold it. -/
theorem reads_within_width :
    (∀ b : ByteString, b.value = Nat.ofDigits 256 (b.bytes.map UInt8.toNat).reverse) ∧
      (Reads toUInt8 UInt8.toNat 1 ∧ Reads toUInt16 UInt16.toNat 2 ∧
        Reads toUInt32 UInt32.toNat 4 ∧ Reads toAddress (fun a => a.bits.toNat) 4) ∧
      (∀ word byte, shiftIn word byte = (word <<< 8) ||| byte.toUInt64) ∧
      (∀ (b : ByteString) (width : Nat) (word : UInt64), width ≤ 8 → b.toWord width = .ok word →
        (∀ front, front <+: b.significant → (front.foldl shiftIn 0).toNat = number front) ∧
          word = b.significant.foldl shiftIn 0 ∧ word.toNat = b.value) ∧
      (∀ (b : ByteString) (word : UInt64),
        (b.toWord 1 = .ok word → word.toUInt8.toNat = word.toNat) ∧
          (b.toWord 2 = .ok word → word.toUInt16.toNat = word.toNat) ∧
          (b.toWord 4 = .ok word → word.toUInt32.toNat = word.toNat)) ∧
      ∀ n b, Writes n b →
        ((∃ m, b.toUInt8 = .ok m ∧ m.toNat = n) ↔ n < 2 ^ 8) ∧
          ((∃ m, b.toUInt16 = .ok m ∧ m.toNat = n) ↔ n < 2 ^ 16) ∧
          ((∃ m, b.toUInt32 = .ok m ∧ m.toNat = n) ↔ n < 2 ^ 32) ∧
          ((∃ a : Address, b.toAddress = .ok a ∧ a.bits.toNat = n) ↔ n < 2 ^ 32) := by
  refine ⟨value_eq_ofDigits, ⟨reads_toUInt8, reads_toUInt16, reads_toUInt32, reads_toAddress⟩,
    shiftIn_eq_or, ?_, ?_, ?_⟩
  · intro b width word hwidth h
    refine ⟨fun front hfront => toNat_foldl_shiftIn_of_toWord hwidth h hfront, ?_,
      (toNat_of_toWord hwidth h).2⟩
    rw [← UInt64.toNat_inj, toNat_foldl_shiftIn_of_toWord hwidth h List.prefix_rfl,
      number_significant]
    exact (toNat_of_toWord hwidth h).2
  · intro b word
    refine ⟨fun h => ?_, fun h => ?_, fun h => ?_⟩
    · rw [UInt64.toNat_toUInt8]
      exact toNat_mod_of_toWord (by decide) h
    · rw [UInt64.toNat_toUInt16]
      exact toNat_mod_of_toWord (by decide) h
    · rw [UInt64.toNat_toUInt32]
      exact toNat_mod_of_toWord (by decide) h
  · intro n b h
    exact ⟨reads_toUInt8.back h, reads_toUInt16.back h, reads_toUInt32.back h,
      reads_toAddress.back h⟩

/-- A port that was padded to ten bytes goes through the word and the cut, and one that was written
as two bytes reads as a word but not as a byte. -/
theorem reads_within_width_ports :
    (∃ word, toWord ⟨[0, 0, 0, 0, 0, 0, 0, 0, 0x12, 0x34]⟩ 2 = .ok word ∧
        word.toUInt16.toNat = word.toNat ∧
        word.toNat = value ⟨[0, 0, 0, 0, 0, 0, 0, 0, 0x12, 0x34]⟩) ∧
      (∃ m, (ofUInt16 2152).toUInt32 = .ok m ∧ m.toNat = 2152) ∧
      ¬∃ m, (ofUInt16 2152).toUInt8 = .ok m ∧ m.toNat = 2152 := by
  obtain ⟨-, -, -, hword, hcut, hback⟩ := reads_within_width
  have h : toWord ⟨[0, 0, 0, 0, 0, 0, 0, 0, 0x12, 0x34]⟩ 2 = .ok 0x1234 := by decide
  obtain ⟨hbyte, -, hfour, -⟩ := hback 2152 (ofUInt16 2152) (.pair 2152)
  refine ⟨⟨_, h, (hcut _ _).2.1 h, (hword _ 2 _ (by decide) h).2.2⟩, hfour.mpr (by decide), ?_⟩
  rw [hbyte]
  decide

end UserPlane.ByteString
