import UserPlane.Proofs.Outcome
import UserPlane.ByteString.Text
import Mathlib.Tactic.Ring

/-! # Byte strings as numbers

A byte string denotes a number (`ByteString.value`), and every reader of byte strings is about that
number alone: leading zeros do not change it (`number_significant`), the significant bytes are at
most `width` exactly if the number is below `256 ^ width` (`length_significant_le_iff`), and the
word that the bytes are shifted into is the number (`toWord_eq`). So **a byte string reads as a
number of some width exactly if it denotes that number**, and what was written reads back. -/

namespace UserPlane.ByteString

/-! ## The number that bytes denote -/

@[simp] theorem number_nil : number [] = 0 := rfl

/-- Bytes after a number shift it to the left by their length. -/
theorem foldl_number (n : Nat) (bs : List UInt8) :
    bs.foldl (fun n b => n * 256 + b.toNat) n = n * 256 ^ bs.length + number bs := by
  -- the number so far has to be free: it takes up a byte at each step
  induction bs generalizing n with
  | nil => simp
  | cons b bs ih =>
    have hb : number (b :: bs) = (0 * 256 + b.toNat) * 256 ^ bs.length + number bs :=
      ih (0 * 256 + b.toNat)
    rw [List.foldl_cons, ih, hb, List.length_cons, Nat.pow_succ]
    ring

/-- The first byte weighs as much as the bytes after it leave room for. -/
theorem number_cons (b : UInt8) (bs : List UInt8) :
    number (b :: bs) = b.toNat * 256 ^ bs.length + number bs := by
  have h : number (b :: bs) = (0 * 256 + b.toNat) * 256 ^ bs.length + number bs :=
    foldl_number (0 * 256 + b.toNat) bs
  rw [h, Nat.zero_mul, Nat.zero_add]

/-- So many bytes denote a number below the power of 256. -/
theorem number_lt (bs : List UInt8) : number bs < 256 ^ bs.length := by
  induction bs with
  | nil => simp
  | cons b bs ih =>
    have hb : b.toNat + 1 ≤ 256 := b.toNat_lt
    have hmul : (b.toNat + 1) * 256 ^ bs.length ≤ 256 * 256 ^ bs.length :=
      Nat.mul_le_mul_right _ hb
    rw [number_cons, List.length_cons, Nat.pow_succ]
    rw [Nat.add_mul, Nat.one_mul] at hmul
    omega

/-- Without its leading zeros, a byte string denotes the same number. -/
theorem number_significant (b : ByteString) : number b.significant = b.value := by
  obtain ⟨bs⟩ := b
  show number (bs.dropWhile (· == 0)) = number bs
  induction bs with
  | nil => rfl
  | cons b bs ih =>
    rw [List.dropWhile_cons]
    split
    · rename_i hzero
      have hb : b = 0 := by simpa using hzero
      rw [ih, number_cons, hb, UInt8.toNat_zero, Nat.zero_mul, Nat.zero_add]
    · rfl

/-- A byte string with so many zero bytes put in front. -/
def padded (zeros : Nat) (b : ByteString) : ByteString := ⟨List.replicate zeros 0 ++ b.bytes⟩

/-- Zeros put in front do not change the number. -/
@[simp] theorem value_padded (zeros : Nat) (b : ByteString) :
    (b.padded zeros).value = b.value := by
  rw [value, padded]
  induction zeros with
  | zero => rfl
  | succ zeros ih =>
    rw [List.replicate_succ, List.cons_append, number_cons, UInt8.toNat_zero, Nat.zero_mul,
      Nat.zero_add]
    exact ih

/-- Bytes that begin with another than zero denote a number that needs all of them. -/
theorem le_number_of_head_ne_zero {b : UInt8} (hb : b ≠ 0) (bs : List UInt8) :
    256 ^ bs.length ≤ number (b :: bs) := by
  have hpos : 1 ≤ b.toNat := by
    rw [Nat.one_le_iff_ne_zero]
    intro hzero
    exact hb (UInt8.toNat_inj.mp hzero)
  have hmul : 1 * 256 ^ bs.length ≤ b.toNat * 256 ^ bs.length := Nat.mul_le_mul_right _ hpos
  rw [number_cons]
  omega

/-- **The significant bytes are no more than the number needs.** -/
theorem length_significant_le_iff {b : ByteString} {width : Nat} :
    b.significant.length ≤ width ↔ b.value < 256 ^ width := by
  rw [← number_significant]
  constructor
  · intro hlen
    exact lt_of_lt_of_le (number_lt _) (Nat.pow_le_pow_right (by decide) hlen)
  · intro hlt
    cases hs : b.significant with
    | nil => simp
    | cons first rest =>
      -- what is left begins with no zero, or the zero would have been dropped
      have hfirst : first ≠ 0 := by
        have h := List.head?_dropWhile_not (fun x : UInt8 => x == 0) b.bytes
        rw [show b.bytes.dropWhile (fun x : UInt8 => x == 0) = first :: rest from hs] at h
        simpa using h
      have hle := le_number_of_head_ne_zero hfirst rest
      rw [hs] at hlt
      have hpow : 256 ^ rest.length < 256 ^ width := lt_of_le_of_lt hle hlt
      exact (Nat.pow_lt_pow_iff_right (by decide)).mp hpow

/-! ## The word that bytes are shifted into -/

/-- A byte goes in at the low end as long as the word has room. -/
theorem toNat_shiftIn {word : UInt64} {byte : UInt8}
    (h : word.toNat * 256 + byte.toNat < 2 ^ 64) :
    (shiftIn word byte).toNat = word.toNat * 256 + byte.toNat := by
  have hmul : word.toNat * 256 < 2 ^ 64 := lt_of_le_of_lt (Nat.le_add_right _ _) h
  rw [shiftIn, UInt64.toNat_add, UInt64.toNat_mul, UInt8.toNat_toUInt64]
  rw [show (256 : UInt64).toNat = 256 from rfl, Nat.mod_eq_of_lt hmul, Nat.mod_eq_of_lt h]

/-- No bit is lost while the number is below the size of the word. -/
theorem toNat_foldl_shiftIn {word : UInt64} {bs : List UInt8}
    (h : word.toNat * 256 ^ bs.length + number bs < 2 ^ 64) :
    (bs.foldl shiftIn word).toNat = word.toNat * 256 ^ bs.length + number bs := by
  induction bs generalizing word with
  | nil => simp
  | cons b bs ih =>
    have hsplit : word.toNat * 256 ^ (b :: bs).length + number (b :: bs)
        = (word.toNat * 256 + b.toNat) * 256 ^ bs.length + number bs := by
      rw [number_cons, List.length_cons, Nat.pow_succ]
      ring
    rw [hsplit] at h ⊢
    -- the number of the bytes read so far is at most that of all of them
    have hroom : word.toNat * 256 + b.toNat ≤
        (word.toNat * 256 + b.toNat) * 256 ^ bs.length :=
      Nat.le_mul_of_pos_right _ (Nat.pow_pos (by decide))
    have hfits : word.toNat * 256 + b.toNat < 2 ^ 64 :=
      lt_of_le_of_lt (le_trans hroom (Nat.le_add_right _ _)) h
    have hword : (shiftIn word b).toNat = word.toNat * 256 + b.toNat := toNat_shiftIn hfits
    rw [List.foldl_cons, ← hword]
    rw [← hword] at h
    exact ih h

/-- **A byte string reads as a word exactly if its number is that small.** -/
theorem toWord_eq (b : ByteString) {width : Nat} (hwidth : width ≤ 8) :
    b.toWord width =
      if b.value < 256 ^ width then .ok (.ofNat b.value) else .error (.doesNotFit b width) := by
  rw [toWord]
  by_cases hlt : b.value < 256 ^ width
  · have hword : b.value < 2 ^ 64 :=
      lt_of_lt_of_le hlt (Nat.pow_le_pow_right (by decide) hwidth)
    -- the leading zeros are dropped before the bytes are shifted in, so that none is shifted out
    rw [if_pos (length_significant_le_iff.mpr hlt), if_pos hlt, Except.ok.injEq,
      ← UInt64.toNat_inj, UInt64.toNat_ofNat_of_lt' hword]
    have hzero : (0 : UInt64).toNat * 256 ^ b.significant.length + number b.significant
        = b.value := by
      rw [number_significant, UInt64.toNat_zero, Nat.zero_mul, Nat.zero_add]
    rw [toNat_foldl_shiftIn (hzero ▸ hword), hzero]
  · rw [if_neg (mt length_significant_le_iff.mp hlt), if_neg hlt]

/-! ## Reading numbers -/

/-- A byte string reads as one byte exactly if its number is below `2 ^ 8`. -/
theorem toUInt8_eq (b : ByteString) :
    b.toUInt8 = if b.value < 2 ^ 8 then .ok (.ofNat b.value) else .error (.doesNotFit b 1) := by
  rw [toUInt8, toWord_eq b (by decide), show 256 ^ 1 = 2 ^ 8 from rfl]
  split
  · rw [Except.map, UInt64.toUInt8_ofNat']
  · rfl

/-- A byte string reads as two bytes exactly if its number is below `2 ^ 16`. -/
theorem toUInt16_eq (b : ByteString) :
    b.toUInt16 = if b.value < 2 ^ 16 then .ok (.ofNat b.value) else .error (.doesNotFit b 2) := by
  rw [toUInt16, toWord_eq b (by decide), show 256 ^ 2 = 2 ^ 16 from rfl]
  split
  · rw [Except.map, UInt64.toUInt16_ofNat']
  · rfl

/-- A byte string reads as four bytes exactly if its number is below `2 ^ 32`. -/
theorem toUInt32_eq (b : ByteString) :
    b.toUInt32 = if b.value < 2 ^ 32 then .ok (.ofNat b.value) else .error (.doesNotFit b 4) := by
  rw [toUInt32, toWord_eq b (by decide), show 256 ^ 4 = 2 ^ 32 from rfl]
  split
  · rw [Except.map, UInt64.toUInt32_ofNat']
  · rfl

/-- A reader that gives the number, if it is below the size of its type, gives a value exactly if
the value is that number. -/
theorem read_eq_ok_iff_of_eq {α : Type} {read : ByteString → Except Error α} {ofNat : Nat → α}
    {toNat : α → Nat} {size : Nat} {error : ByteString → Error}
    (hread : ∀ b, read b = if b.value < size then .ok (ofNat b.value) else .error (error b))
    (hofNat : ∀ {n}, n < size → toNat (ofNat n) = n) (htoNat : ∀ {a}, ofNat (toNat a) = a)
    (hlt : ∀ a, toNat a < size) {b : ByteString} {a : α} :
    read b = .ok a ↔ b.value = toNat a := by
  rw [hread]
  constructor
  · intro h
    split at h
    · rename_i hb
      rw [← Except.ok.inj h, hofNat hb]
    · cases h
  · intro h
    have hb : b.value < size := by
      rw [h]
      exact hlt a
    rw [if_pos hb, h, htoNat]

/-- What reads as one byte is the number that it is. -/
theorem toUInt8_eq_ok_iff {b : ByteString} {n : UInt8} :
    b.toUInt8 = .ok n ↔ b.value = n.toNat :=
  read_eq_ok_iff_of_eq toUInt8_eq UInt8.toNat_ofNat_of_lt' UInt8.ofNat_toNat UInt8.toNat_lt

/-- What reads as two bytes is the number that they are. -/
theorem toUInt16_eq_ok_iff {b : ByteString} {n : UInt16} :
    b.toUInt16 = .ok n ↔ b.value = n.toNat :=
  read_eq_ok_iff_of_eq toUInt16_eq UInt16.toNat_ofNat_of_lt' UInt16.ofNat_toNat UInt16.toNat_lt

/-- What reads as four bytes is the number that they are. -/
theorem toUInt32_eq_ok_iff {b : ByteString} {n : UInt32} :
    b.toUInt32 = .ok n ↔ b.value = n.toNat :=
  read_eq_ok_iff_of_eq toUInt32_eq UInt32.toNat_ofNat_of_lt' UInt32.ofNat_toNat UInt32.toNat_lt

/-- What reads as an address is the address with that number. -/
theorem toAddress_eq_ok_iff {b : ByteString} {a : Address} :
    b.toAddress = .ok a ↔ b.value = a.bits.toNat := by
  obtain ⟨bits⟩ := a
  rw [toAddress, ← toUInt32_eq_ok_iff]
  cases b.toUInt32 with
  | error e => simp [Except.map]
  | ok n => simp [Except.map]

/-! ## Written numbers -/

/-- One byte denotes itself. -/
@[simp] theorem value_ofUInt8 (n : UInt8) : (ofUInt8 n).value = n.toNat := by
  simp [value, ofUInt8, number]

/-- A number written as two bytes is denoted by them. -/
@[simp] theorem value_ofUInt16 (n : UInt16) : (ofUInt16 n).value = n.toNat := by
  have h : n.toNat < 2 ^ 16 := n.toNat_lt
  simp only [value, ofUInt16, number, List.foldl_cons, List.foldl_nil, UInt16.toNat_toUInt8,
    UInt16.toNat_shiftRight, Nat.shiftRight_eq_div_pow]
  rw [show (8 : UInt16).toNat % 16 = 8 from rfl]
  omega

/-- A number written as four bytes is denoted by them. -/
@[simp] theorem value_ofUInt32 (n : UInt32) : (ofUInt32 n).value = n.toNat := by
  have h : n.toNat < 2 ^ 32 := n.toNat_lt
  simp only [value, ofUInt32, number, List.foldl_cons, List.foldl_nil, UInt32.toNat_toUInt8,
    UInt32.toNat_shiftRight, Nat.shiftRight_eq_div_pow]
  rw [show (24 : UInt32).toNat % 32 = 24 from rfl, show (16 : UInt32).toNat % 32 = 16 from rfl,
    show (8 : UInt32).toNat % 32 = 8 from rfl]
  omega

/-- The octets of an address denote its word. -/
@[simp] theorem value_ofAddress (a : Address) : (ofAddress a).value = a.bits.toNat := by
  rw [ofAddress_eq, value_ofUInt32]

end UserPlane.ByteString
