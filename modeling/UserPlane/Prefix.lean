import UserPlane.Address

/-! # IPv4 prefixes

A prefix is the set of addresses that agree on their first bits with a **network** address. The
bits beyond its **length** are zero in every prefix, so two prefixes are equal exactly if they are
the same network with the same length. The text is the network, a slash and the length; the reader
clears host bits, and allows a plus sign and leading zeros in the length. -/

namespace UserPlane

/-- Why a text does not denote an address or a prefix. -/
inductive NetworkError where
  /-- The text is not a dotted quad. -/
  | invalidAddress (text : String)
  /-- The text is not an address and a length. -/
  | invalidPrefix (text : String)
  /-- The length is a byte, but no address has that many bits. -/
  | lengthTooLarge (length : UInt8)
deriving DecidableEq

namespace Address

/-- The address that a text denotes. -/
def ofText (text : String) : Except NetworkError Address :=
  match ofChars? text.toList with
  | some a => .ok a
  | none => .error (.invalidAddress text)

end Address

namespace Prefix

/-- The number of bits of an address. -/
def maxLength : UInt8 := 32

/-- The word whose first `length` bits are set; a shift by all 32 bits leaves nothing. -/
def mask (length : UInt8) : UInt32 :=
  let hostBits := maxLength - length
  -- Shifts go by the width modulo 32, so a shift by all bits is told apart.
  if hostBits < maxLength then 0xffffffff <<< hostBits.toUInt32 else 0

end Prefix

/-- What went wrong with an address or a prefix, in words. -/
def NetworkError.message : NetworkError → String
  | .invalidAddress text => "invalid IPv4 address format: " ++ text
  | .invalidPrefix text => "invalid IPv4 prefix format: " ++ text
  | .lengthTooLarge length =>
    "invalid IPv4 prefix format: prefix length " ++ Decimal.text length.toNat
      ++ " exceeds maximum " ++ Decimal.text Prefix.maxLength.toNat

/-- An IPv4 prefix: a network address, whose host bits are zero, and the number of its bits. -/
structure Prefix where
  /-- The address that every member agrees with on the first bits. -/
  network : Address
  /-- How many bits members share. -/
  length : UInt8
  length_le : length ≤ Prefix.maxLength
  masked : network.bits &&& Prefix.mask length = network.bits
deriving DecidableEq

namespace Prefix

/-- The prefix of the given length around an address, whose host bits are cleared. -/
def around (address : Address) (length : UInt8) : Except NetworkError Prefix :=
  if h : length ≤ maxLength then
    .ok { network := ⟨address.bits &&& mask length⟩, length, length_le := h,
          masked := by rw [UInt32.and_assoc, UInt32.and_self] }
  else .error (.lengthTooLarge length)

/-- Whether all bits of an address belong to the prefix, which then has one member. -/
def isHostRoute (p : Prefix) : Bool := p.length == maxLength

/-- Whether no bit belongs to the prefix, which then holds every address. -/
def isDefault (p : Prefix) : Bool := p.length == 0

/-- Whether an address agrees with the network on the prefix's bits. -/
def contains (p : Prefix) (address : Address) : Bool :=
  address.bits &&& mask p.length == p.network.bits

/-- Two prefixes with the same network and length are equal. -/
@[ext] theorem ext {p q : Prefix} (hn : p.network = q.network) (hl : p.length = q.length) :
    p = q := by
  cases p
  cases q
  cases hn
  cases hl
  rfl

/-- A prefix contains its own network address. -/
@[simp] theorem contains_network (p : Prefix) : p.contains p.network = true := by
  simp [contains, p.masked]

/-- The prefix around a prefix's network, of its length, is the prefix. -/
@[simp] theorem around_network (p : Prefix) : around p.network p.length = .ok p := by
  have h := p.masked
  simp only [around, p.length_le, dif_pos]
  congr 1
  ext1
  · simp [h]
  · rfl

/-! ## Text -/

/-- The characters of a prefix's text. -/
def chars (p : Prefix) : List Char := p.network.chars ++ '/' :: Decimal.digits p.length.toNat

/-- The text of a prefix. -/
def text (p : Prefix) : String := String.ofList p.chars

/-- The length that characters denote: digits, after a plus sign or none, of a value that a byte
holds. -/
def length? (cs : List Char) : Option UInt8 := do
  let n ← Decimal.value? (match cs with
    | '+' :: digits => digits
    | digits => digits)
  if n < 256 then some n.toUInt8 else none

/-- The prefix that a text denotes; the last slash separates address and length. -/
def ofText (text : String) : Except NetworkError Prefix :=
  let parts := do
    let (address, length) ← Separator.cutLast? '/' text.toList
    let address ← Address.ofChars? address
    let length ← length? length
    some (address, length)
  match parts with
  | some (address, length) => around address length
  | none => .error (.invalidPrefix text)

@[simp] theorem text_toList (p : Prefix) : p.text.toList = p.chars := by simp [text]

/-- There is no slash among digits. -/
theorem slash_not_mem_digits (n : Nat) : '/' ∉ Decimal.digits n := by
  intro h
  exact absurd (Decimal.isDigit_of_mem_digits h) (by decide)

/-- A length's digits denote it. -/
@[simp] theorem length?_digits (length : UInt8) :
    length? (Decimal.digits length.toNat) = some length := by
  have hlt : length.toNat < 256 := length.toNat_lt
  have hsign : ∀ rest, Decimal.digits length.toNat ≠ '+' :: rest := by
    intro rest h
    have : '+' ∈ Decimal.digits length.toNat := by simp [h]
    exact absurd (Decimal.isDigit_of_mem_digits this) (by decide)
  unfold length?
  split
  · rename_i digits h
    exact absurd h (hsign digits)
  · simp [hlt]

/-- A prefix's text denotes it. -/
@[simp] theorem ofText_text (p : Prefix) : ofText p.text = .ok p := by
  have hcut : Separator.cutLast? '/' p.chars =
      some (p.network.chars, Decimal.digits p.length.toNat) :=
    Separator.cutLast?_append (slash_not_mem_digits p.length.toNat)
  simp [ofText, hcut]

end Prefix

end UserPlane
