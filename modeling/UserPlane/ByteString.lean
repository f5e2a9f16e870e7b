import UserPlane.Address

/-! # Byte strings

The values of match fields and action parameters are big-endian byte strings of any length. A
device may strip the leading zero bytes of a value or pad it beyond the width of its field, so the
readers look at the **significant** bytes only: what is left once the leading zeros are gone. A
string reads as a number of one, two or four bytes if that many bytes hold its significant part. -/

namespace UserPlane

/-- A sequence of bytes, the most significant one first. -/
structure ByteString where
  /-- The bytes in order. -/
  bytes : List UInt8
deriving DecidableEq, Inhabited

namespace ByteString

/-! ## Making byte strings -/

/-- The byte string without bytes. -/
def empty : ByteString := ⟨[]⟩

/-- A number of one byte. -/
def ofUInt8 (n : UInt8) : ByteString := ⟨[n]⟩

/-- A number of two bytes. -/
def ofUInt16 (n : UInt16) : ByteString := ⟨[(n >>> 8).toUInt8, n.toUInt8]⟩

/-- A number of four bytes. -/
def ofUInt32 (n : UInt32) : ByteString :=
  ⟨[(n >>> 24).toUInt8, (n >>> 16).toUInt8, (n >>> 8).toUInt8, n.toUInt8]⟩

/-- An address, as its four octets. -/
def ofAddress (a : Address) : ByteString := ⟨a.octets⟩

/-- As many bytes with every bit set, as in a mask that compares the whole value. -/
def ones (length : Nat) : ByteString := ⟨List.replicate length 0xff⟩

/-- The number of bytes. -/
def length (b : ByteString) : Nat := b.bytes.length

/-- Whether there are no bytes. -/
def isEmpty (b : ByteString) : Bool := b.bytes.isEmpty

/-- The bytes of an address are those of its word. -/
theorem ofAddress_eq (a : Address) : ofAddress a = ofUInt32 a.bits := rfl

/-! ## The number a byte string denotes -/

/-- The number that bytes denote, the most significant one first. -/
def number (bytes : List UInt8) : Nat := bytes.foldl (fun n b => n * 256 + b.toNat) 0

/-- The number that a byte string denotes. -/
def value (b : ByteString) : Nat := number b.bytes

/-- The bytes left once the leading zeros are gone. -/
def significant (b : ByteString) : List UInt8 := b.bytes.dropWhile (· == 0)

/-! ## Reading numbers -/

/-- Why bytes could not be read, or read from text. -/
inductive Error where
  /-- The significant bytes are more than the width asked for. -/
  | doesNotFit (value : ByteString) (width : Nat)
  /-- The text is not the text of a byte string. -/
  | invalidFormat (text : String)
deriving DecidableEq

/-- Shifts a byte in at the low end of a word. -/
def shiftIn (word : UInt64) (byte : UInt8) : UInt64 := word * 256 + byte.toUInt64

/-- The significant bytes as a word, if there are no more than `width` of them. -/
def toWord (b : ByteString) (width : Nat) : Except Error UInt64 :=
  if b.significant.length ≤ width then .ok (b.significant.foldl shiftIn 0)
  else .error (.doesNotFit b width)

/-- The byte string read as a number of one byte. -/
def toUInt8 (b : ByteString) : Except Error UInt8 := (b.toWord 1).map UInt64.toUInt8

/-- The byte string read as a number of two bytes. -/
def toUInt16 (b : ByteString) : Except Error UInt16 := (b.toWord 2).map UInt64.toUInt16

/-- The byte string read as a number of four bytes. -/
def toUInt32 (b : ByteString) : Except Error UInt32 := (b.toWord 4).map UInt64.toUInt32

/-- The byte string read as an address. -/
def toAddress (b : ByteString) : Except Error Address := b.toUInt32.map Address.mk

end ByteString

end UserPlane
