import UserPlane.Decimal
import UserPlane.Separator

/-! # IPv4 addresses

An address is a 32-bit word. Its **octets** are the bytes of the word, the highest first, and its
text is the dotted quad of them. The reader takes exactly that text: four numbers below 256 in
their own digits, so without leading zeros, signs or blanks. -/

namespace UserPlane

/-- An IPv4 address, as the word that its four octets make up. -/
structure Address where
  /-- The address as a number; the first octet is the highest byte. -/
  bits : UInt32
deriving DecidableEq, Inhabited

namespace Address

/-- The address with the given octets. -/
def ofOctets (a b c d : UInt8) : Address :=
  ⟨((a.toUInt32 * 256 + b.toUInt32) * 256 + c.toUInt32) * 256 + d.toUInt32⟩

/-- The four octets, the highest first. -/
def octets (a : Address) : List UInt8 :=
  [(a.bits >>> 24).toUInt8, (a.bits >>> 16).toUInt8, (a.bits >>> 8).toUInt8, a.bits.toUInt8]

/-- Addresses are ordered as numbers. -/
instance : Ord Address := ⟨fun a b => compare a.bits b.bits⟩

/-! ## Text -/

/-- The dotted quad of an address. -/
def chars (a : Address) : List Char :=
  Separator.join '.' (a.octets.map fun o => Decimal.digits o.toNat)

/-- The text of an address. -/
def text (a : Address) : String := String.ofList a.chars

/-- The octet that a text denotes: a number below 256 in its own digits. -/
def octet? (cs : List Char) : Option UInt8 := do
  let n ← Decimal.value? cs
  if n < 256 ∧ Decimal.digits n = cs then some n.toUInt8 else none

/-- The address that a dotted quad denotes. -/
def ofChars? (cs : List Char) : Option Address :=
  match Separator.fields '.' cs with
  | [a, b, c, d] => do
    let a ← octet? a
    let b ← octet? b
    let c ← octet? c
    let d ← octet? d
    some (ofOctets a b c d)
  | _ => none

@[simp] theorem text_toList (a : Address) : a.text.toList = a.chars := by simp [text]

/-- An address is made up of its octets. -/
theorem ofOctets_octets (a : Address) :
    ofOctets (a.bits >>> 24).toUInt8 (a.bits >>> 16).toUInt8 (a.bits >>> 8).toUInt8
      a.bits.toUInt8 = a := by
  obtain ⟨n⟩ := a
  have h : n.toNat < 2 ^ 32 := n.toNat_lt
  rw [ofOctets, mk.injEq, ← UInt32.toNat_inj]
  simp [Nat.shiftRight_eq_div_pow]
  omega

/-- An octet's own digits denote it. -/
@[simp] theorem octet?_digits (o : UInt8) : octet? (Decimal.digits o.toNat) = some o := by
  have h : o.toNat < 256 := o.toNat_lt
  simp [octet?, h]

/-- There is no point among digits. -/
theorem point_not_mem_digits (n : Nat) : '.' ∉ Decimal.digits n := by
  intro h
  exact absurd (Decimal.isDigit_of_mem_digits h) (by decide)

/-- An address's text denotes it. -/
@[simp] theorem ofChars?_chars (a : Address) : ofChars? a.chars = some a := by
  have hfields : Separator.fields '.' a.chars =
      a.octets.map fun o => Decimal.digits o.toNat := by
    refine Separator.fields_join (by simp [octets]) ?_
    intro piece hpiece
    obtain ⟨o, -, rfl⟩ := List.mem_map.1 hpiece
    exact point_not_mem_digits o.toNat
  simp only [ofChars?, hfields, octets, List.map_cons, List.map_nil, octet?_digits]
  exact congrArg some (ofOctets_octets a)

end Address

end UserPlane
