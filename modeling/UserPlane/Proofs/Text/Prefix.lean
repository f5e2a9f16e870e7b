import UserPlane.Proofs.Network
import UserPlane.Proofs.Text.Numeral

/-! # Which texts are prefixes

An address is written as four numerals of octets with points between them, none with a zero in front
that is not needed (`Address.Quad`). A prefix is written as an address, a slash and a length, and
the length may have a plus sign and zeros in front (`Prefix.Spells`). A text that spells an address
and a length is the prefix around the address if an address has so many bits; if the length is at
least a byte, it is refused for the length; **any other text is refused as a whole**
(`Prefix.ofText_eq_ok_iff_spells`). -/

namespace UserPlane

/-! ## Addresses -/

namespace Address

/-- Characters that are the numeral of an octet, without a zero in front. -/
def SpellsOctet (cs : List Char) (o : UInt8) : Prop :=
  Decimal.Numeral cs o.toNat ∧ Decimal.NoZeroInFront cs

/-- Characters that are the four octets of an address with points between them. -/
inductive Quad : List Char → Address → Prop where
  /-- The first octet is the highest. -/
  | octets {A B C D : List Char} {a b c d : UInt8} (ha : SpellsOctet A a) (hb : SpellsOctet B b)
    (hc : SpellsOctet C c) (hd : SpellsOctet D d) :
    Quad (A ++ '.' :: (B ++ '.' :: (C ++ '.' :: D))) (ofOctets a b c d)

/-- An octet is read from its numeral. -/
theorem octet?_eq_some_iff {cs : List Char} {o : UInt8} :
    octet? cs = some o ↔ SpellsOctet cs o := by
  rw [SpellsOctet, ← Decimal.digits_eq_iff]
  constructor
  · intro h
    obtain ⟨n, -, hn⟩ := Option.bind_eq_some_iff.mp h
    split at hn
    · rename_i hlt
      rw [← Option.some.inj hn, UInt8.toNat_ofNat_of_lt' hlt.1]
      exact hlt.2
    · cases hn
  · rintro rfl
    exact octet?_digits o

/-- **An address is read from four octets with points between them.** -/
theorem ofChars?_eq_some_iff {cs : List Char} {a : Address} :
    ofChars? cs = some a ↔ Quad cs a := by
  constructor
  · intro h
    unfold ofChars? at h
    split at h
    · rename_i A B C D hfields
      have hcs : A ++ '.' :: (B ++ '.' :: (C ++ '.' :: D)) = cs := by
        rw [← Separator.join_fields '.' cs, hfields]
        rfl
      simp only [Option.bind_eq_bind, Option.bind_eq_some_iff, octet?_eq_some_iff,
        Option.some.injEq] at h
      obtain ⟨a, ha, b, hb, c, hc, d, hd, rfl⟩ := h
      rw [← hcs]
      exact .octets ha hb hc hd
    · cases h
  · intro h
    cases h with
    | @octets A B C D a b c d ha hb hc hd =>
      -- no octet has a point in it, so the points are where the fields are cut
      have hpoint : ∀ {cs : List Char} {o : UInt8}, SpellsOctet cs o → '.' ∉ cs :=
        fun h => h.1.not_mem rfl
      have hfields : Separator.fields '.' (A ++ '.' :: (B ++ '.' :: (C ++ '.' :: D))) =
          [A, B, C, D] := by
        rw [Separator.fields_append (hpoint ha), Separator.fields_append (hpoint hb),
          Separator.fields_append (hpoint hc), Separator.fields_of_not_mem (hpoint hd)]
      simp only [ofChars?, hfields, octet?_eq_some_iff.mpr ha, octet?_eq_some_iff.mpr hb,
        octet?_eq_some_iff.mpr hc, octet?_eq_some_iff.mpr hd]
      rfl

end Address

namespace Prefix

/-! ## Lengths -/

/-- Characters that are a numeral, or a plus sign and a numeral. -/
inductive SpellsLength : List Char → Nat → Prop where
  /-- A numeral. -/
  | plain {cs : List Char} {n : Nat} (h : Decimal.Numeral cs n) : SpellsLength cs n
  /-- A numeral with its sign. -/
  | signed {cs : List Char} {n : Nat} (h : Decimal.Numeral cs n) : SpellsLength ('+' :: cs) n

/-- There is no slash in a length. -/
theorem SpellsLength.slash_not_mem {cs : List Char} {n : Nat} (h : SpellsLength cs n) :
    '/' ∉ cs := by
  cases h with
  | plain h => exact h.not_mem rfl
  | signed h =>
    rw [List.mem_cons, not_or]
    exact ⟨by decide, h.not_mem rfl⟩

/-- A number that a byte holds is read from its numeral. -/
theorem length_of_numeral {cs : List Char} {length : UInt8} :
    (do
      let n ← Decimal.value? cs
      if n < 256 then some n.toUInt8 else none) = some length ↔
    Decimal.Numeral cs length.toNat := by
  rw [← Decimal.value?_eq_some_iff]
  constructor
  · intro h
    obtain ⟨n, hn, hlength⟩ := Option.bind_eq_some_iff.mp h
    split at hlength
    · rename_i hlt
      rw [hn, ← Option.some.inj hlength, UInt8.toNat_ofNat_of_lt' hlt]
    · cases hlength
  · intro h
    have hlt : length.toNat < 256 := length.toNat_lt
    simp [h, hlt]

/-- **A length is read from its spelling, if a byte holds it.** -/
theorem length?_eq_some_iff {cs : List Char} {length : UInt8} :
    length? cs = some length ↔ SpellsLength cs length.toNat := by
  unfold length?
  rw [length_of_numeral]
  split
  · -- a numeral does not start with a sign, so a sign in front is the one that is dropped
    rename_i digits
    constructor
    · exact .signed
    · intro h
      cases h with
      | plain h => exact absurd List.mem_cons_self (h.not_mem (c := '+') rfl)
      | signed h => exact h
  · rename_i hsign
    constructor
    · exact .plain
    · intro h
      cases h with
      | plain h => exact h
      | signed h => exact absurd rfl (hsign _)

/-! ## Texts -/

/-- A text that is an address, a slash and a length. -/
def Spells (text : String) (address : Address) (length : Nat) : Prop :=
  ∃ before after, text.toList = before ++ '/' :: after ∧ Address.Quad before address ∧
    SpellsLength after length

variable {s : String} {address : Address} {length : UInt8}

/-- The prefix of a text is the one around its address. -/
theorem Spells.ofText_eq (h : Spells s address length.toNat) :
    ofText s = around address length := by
  obtain ⟨before, after, hs, haddress, hlength⟩ := h
  -- there is no slash in the length, so the last one is the one before it
  simp only [ofText, hs, Separator.cutLast?_append hlength.slash_not_mem, Option.bind_eq_bind,
    Option.bind_some, Address.ofChars?_eq_some_iff.mpr haddress, length?_eq_some_iff.mpr hlength]

/-- A text that spells no address with a length that a byte holds is refused as a whole. -/
theorem ofText_of_not_spells (h : ∀ address length, ¬Spells s address (UInt8.toNat length)) :
    ofText s = .error (.invalidPrefix s) := by
  rw [ofText]
  split
  · rename_i address length hparts
    simp only [Option.bind_eq_bind, Option.bind_eq_some_iff, Option.some.injEq,
      Prod.mk.injEq] at hparts
    obtain ⟨⟨before, after⟩, hcut, a, haddress, l, hlength, rfl, rfl⟩ := hparts
    refine absurd ⟨before, after, (Separator.append_of_cutLast? hcut).1, ?_, ?_⟩ (h a l)
    · exact Address.ofChars?_eq_some_iff.mp haddress
    · exact length?_eq_some_iff.mp hlength
  · rfl

/-- A text reads as the prefix that it spells. -/
theorem ofText_eq_ok_iff {p : Prefix} :
    ofText s = .ok p ↔
      ∃ address length, Spells s address (UInt8.toNat length) ∧ around address length = .ok p := by
  constructor
  · intro h
    by_contra hnone
    have hrefused : ofText s = .error (.invalidPrefix s) := by
      apply ofText_of_not_spells
      intro address length hspells
      exact hnone ⟨address, length, hspells, hspells.ofText_eq.symm.trans h⟩
    rw [hrefused] at h
    cases h
  · rintro ⟨address, length, hspells, hp⟩
    rw [hspells.ofText_eq, hp]

/-- A text is refused for the length that it spells, or as a whole. -/
theorem ofText_eq_error_iff {e : NetworkError} :
    ofText s = .error e ↔
      (∃ address length, Spells s address (UInt8.toNat length) ∧ 32 < length.toNat ∧
        e = .lengthTooLarge length) ∨
      (∀ address length, ¬Spells s address (UInt8.toNat length)) ∧ e = .invalidPrefix s := by
  constructor
  · intro h
    by_cases hspells : ∃ address length, Spells s address (UInt8.toNat length)
    · obtain ⟨address, length, hspells⟩ := hspells
      rw [hspells.ofText_eq, around_eq_error_iff] at h
      exact Or.inl ⟨address, length, hspells, h⟩
    · have hnone : ∀ address length, ¬Spells s address (UInt8.toNat length) :=
        fun address length h => hspells ⟨address, length, h⟩
      rw [ofText_of_not_spells hnone] at h
      exact Or.inr ⟨hnone, (Except.error.inj h).symm⟩
  · rintro (⟨address, length, hspells, herror⟩ | ⟨hnone, rfl⟩)
    · rw [hspells.ofText_eq, around_eq_error_iff]
      exact herror
    · exact ofText_of_not_spells hnone

/-- **The texts of prefixes.** What is written reads back. A text reads as a prefix exactly if it
spells an address and a length that an address has bits for, and then it is the prefix of this
length around the address. With a larger length that a byte still holds it is refused for the
length, and any other text as a whole. -/
theorem ofText_eq_ok_iff_spells :
    (∀ p : Prefix, ofText p.text = .ok p) ∧
      ∀ s : String,
        (∀ p, ofText s = .ok p ↔ ∃ address length, Spells s address (UInt8.toNat length) ∧
          length.toNat ≤ 32 ∧ around address length = .ok p) ∧
        ∀ e, ofText s = .error e ↔
          (∃ address length, Spells s address (UInt8.toNat length) ∧ 32 < length.toNat ∧
            e = .lengthTooLarge length ∧
            e.message = "invalid IPv4 prefix format: prefix length " ++
              Decimal.text length.toNat ++ " exceeds maximum " ++ Decimal.text 32) ∨
          (∀ address length, ¬Spells s address (UInt8.toNat length)) ∧ e = .invalidPrefix s ∧
            e.message = "invalid IPv4 prefix format: " ++ s := by
  refine ⟨ofText_text, fun s => ⟨fun p => ?_, fun e => ?_⟩⟩
  · rw [ofText_eq_ok_iff]
    apply exists₂_congr
    intro address length
    apply and_congr_right
    intro _
    constructor
    · intro hp
      have hlength : p.length.toNat = length.toNat := (around_eq_ok_iff.mp hp).1
      exact ⟨hlength ▸ p.toNat_length_le, hp⟩
    · exact And.right
  · rw [ofText_eq_error_iff]
    constructor
    · rintro (⟨address, length, hspells, hlarge, rfl⟩ | ⟨hnone, rfl⟩)
      · exact Or.inl ⟨address, length, hspells, hlarge, rfl, rfl⟩
      · exact Or.inr ⟨hnone, rfl, rfl⟩
    · rintro (⟨address, length, hspells, hlarge, he, -⟩ | ⟨hnone, he, -⟩)
      · exact Or.inl ⟨address, length, hspells, hlarge, he⟩
      · exact Or.inr ⟨hnone, he⟩

/-- A sign and zeros in front are read in the length, and a zero in front of an octet is not. -/
example : ofText "10.0.0.7/+008" = ofText "10.0.0.0/8" ∧
    ofText "10.0.0.7/33" = .error (.lengthTooLarge 33) ∧
    ofText "10.0.0.7/256" = .error (.invalidPrefix "10.0.0.7/256") ∧
    ofText "10.0.0.07/8" = .error (.invalidPrefix "10.0.0.07/8") := ⟨rfl, rfl, rfl, rfl⟩

end Prefix

end UserPlane
