import UserPlane.ByteString.Text
import UserPlane.Text.Cut

/-! # Which texts are byte strings

The text of a byte string is `0x` and then pairs of characters that each spell a byte: two
hexadecimal digits of either case, or a plus sign and one digit (`ByteString.SpellsByte`). The
reader accepts exactly these texts and gives the bytes in order (`ByteString.Spells`). All of them
are made of characters of one byte, so it comes to the same to cut the text at every second byte and
to look at the pieces, as no piece then ends inside of a character (`ByteString.spells_iff_slices`);
a text with any other character, or with an odd number of bytes, is refused. Written again, the
bytes are the text in lower case, but for the plus signs, which are never written
(`ByteString.ofText_eq_ok_iff_pairs`). -/

namespace UserPlane

/-! ## Digits -/

namespace Hexadecimal

/-- A character is the digit of a value, in either case. -/
def Denotes (c : Char) (n : Nat) : Prop := n < 16 ∧ (c = digit n ∨ c = (digit n).toUpper)

/-- A character has a value exactly if it is the digit of that value. -/
theorem value?_eq_some_iff {c : Char} {n : Nat} : value? c = some n ↔ Denotes c n := by
  constructor
  · intro h
    have hn : n < 16 := value?_lt h
    have hc : c.toNat < 103 := by
      unfold value? at h
      split at h
      · rename_i hrange
        have : c.toNat ≤ 57 := hrange.2
        omega
      · split at h
        · rename_i hrange
          have : c.toNat ≤ 102 := hrange.2
          omega
        · split at h
          · rename_i hrange
            have : c.toNat ≤ 70 := hrange.2
            omega
          · cases h
    have hall : ∀ code < 103, ∀ n < 16, value? (Char.ofNat code) = some n →
        Char.ofNat code = digit n ∨ Char.ofNat code = (digit n).toUpper := by decide
    have hdigit := hall c.toNat hc n hn
    rw [Char.ofNat_toNat] at hdigit
    exact ⟨hn, hdigit h⟩
  · rintro ⟨hn, rfl | rfl⟩
    · exact value?_digit n hn
    · have hall : ∀ n < 16, value? (digit n).toUpper = some n := by decide
      exact hall n hn

namespace Denotes

variable {c : Char} {n : Nat}

/-- In lower case, a digit is the one that is written. -/
theorem toLower_eq (h : Denotes c n) : c.toLower = digit n := by
  have hall : ∀ n < 16, (digit n).toLower = digit n ∧ (digit n).toUpper.toLower = digit n := by
    decide
  obtain ⟨hn, rfl | rfl⟩ := h
  · exact (hall n hn).1
  · exact (hall n hn).2

/-- A digit takes one byte. -/
theorem utf8Size_eq (h : Denotes c n) : c.utf8Size = 1 := by
  have hall : ∀ n < 16, (digit n).utf8Size = 1 ∧ (digit n).toUpper.utf8Size = 1 := by decide
  obtain ⟨hn, rfl | rfl⟩ := h
  · exact (hall n hn).1
  · exact (hall n hn).2

/-- A digit is no sign. -/
theorem ne_plus (h : Denotes c n) : c ≠ '+' := by
  have hall : ∀ n < 16, digit n ≠ '+' ∧ (digit n).toUpper ≠ '+' := by decide
  obtain ⟨hn, rfl | rfl⟩ := h
  · exact (hall n hn).1
  · exact (hall n hn).2

end Denotes

end Hexadecimal

namespace ByteString

open Hexadecimal (Denotes digit ofByte)

/-! ## Pairs -/

/-- Two characters that stand for a byte. -/
inductive SpellsByte : Char → Char → UInt8 → Prop where
  /-- Two digits, the high one first. -/
  | digits {high low : Char} {h l : Nat} {b : UInt8} (hhigh : Denotes high h)
      (hlow : Denotes low l) (hb : b.toNat = h * 16 + l) : SpellsByte high low b
  /-- A plus sign and one digit. -/
  | signed {low : Char} {l : Nat} {b : UInt8} (hlow : Denotes low l) (hb : b.toNat = l) :
    SpellsByte '+' low b

namespace SpellsByte

variable {high low : Char} {b : UInt8}

/-- The two characters that spell a byte take one byte each. -/
theorem utf8Size_eq (h : SpellsByte high low b) : high.utf8Size = 1 ∧ low.utf8Size = 1 := by
  cases h with
  | digits hhigh hlow hb => exact ⟨hhigh.utf8Size_eq, hlow.utf8Size_eq⟩
  | signed hlow hb => exact ⟨rfl, hlow.utf8Size_eq⟩

/-- Of the two characters that spell a byte, only the first may be a sign. -/
theorem low_ne_plus (h : SpellsByte high low b) : low ≠ '+' := by
  cases h with
  | digits hhigh hlow hb => exact hlow.ne_plus
  | signed hlow hb => exact hlow.ne_plus

/-- A byte is written as the two characters that spell it, in lower case, exactly if none is a
sign. -/
theorem ofByte_eq_iff (h : SpellsByte high low b) :
    ofByte b = [high.toLower, low.toLower] ↔ high ≠ '+' := by
  cases h with
  | @digits _ _ h l _ hhigh hlow hb =>
    have hl : l < 16 := hlow.1
    have hdiv : b.toNat / 16 = h := by omega
    have hmod : b.toNat % 16 = l := by omega
    rw [ofByte, hdiv, hmod, hhigh.toLower_eq, hlow.toLower_eq]
    exact iff_of_true rfl hhigh.ne_plus
  | @signed _ l _ hlow hb =>
    have hl : l < 16 := hlow.1
    have hdiv : b.toNat / 16 = 0 := by omega
    -- the high digit is written out as zero
    rw [ofByte, hdiv]
    refine iff_of_false ?_ fun hne => hne rfl
    intro heq
    exact absurd (List.cons.inj heq).1 (by decide)

end SpellsByte

/-- Two characters are read as the byte that they spell. -/
theorem byte?_eq_some_iff {high low : Char} {b : UInt8} :
    byte? high low = some b ↔ SpellsByte high low b := by
  rw [byte?]
  constructor
  · intro h
    split at h
    · rename_i hsign
      obtain ⟨l, hl, rfl⟩ := Option.map_eq_some_iff.mp h
      have hlow : Denotes low l := Hexadecimal.value?_eq_some_iff.mp hl
      have hlt : l < 16 := hlow.1
      rw [hsign]
      exact .signed hlow (UInt8.toNat_ofNat_of_lt' (show l < 256 by omega))
    · obtain ⟨h, hh, hrest⟩ := Option.bind_eq_some_iff.mp h
      obtain ⟨l, hl, hb⟩ := Option.bind_eq_some_iff.mp hrest
      have hhigh : Denotes high h := Hexadecimal.value?_eq_some_iff.mp hh
      have hlow : Denotes low l := Hexadecimal.value?_eq_some_iff.mp hl
      have hlt : h < 16 ∧ l < 16 := ⟨hhigh.1, hlow.1⟩
      refine .digits hhigh hlow ?_
      rw [← Option.some.inj hb]
      exact UInt8.toNat_ofNat_of_lt' (show h * 16 + l < 256 by omega)
  · intro h
    cases h with
    | @digits _ _ h l _ hhigh hlow hb =>
      rw [if_neg hhigh.ne_plus, Hexadecimal.value?_eq_some_iff.mpr hhigh,
        Hexadecimal.value?_eq_some_iff.mpr hlow]
      show some (h * 16 + l).toUInt8 = some b
      rw [← hb, Nat.toUInt8_eq, UInt8.ofNat_toNat]
    | @signed _ l _ hlow hb =>
      rw [if_pos rfl, Hexadecimal.value?_eq_some_iff.mpr hlow]
      show some l.toUInt8 = some b
      rw [← hb, Nat.toUInt8_eq, UInt8.ofNat_toNat]

/-- Characters that spell bytes, two characters a byte. -/
inductive Spells : List Char → List UInt8 → Prop where
  /-- No characters spell no bytes. -/
  | nil : Spells [] []
  /-- A pair spells the first byte. -/
  | cons {high low : Char} {b : UInt8} {cs : List Char} {bs : List UInt8}
      (hb : SpellsByte high low b) (hbs : Spells cs bs) : Spells (high :: low :: cs) (b :: bs)

/-- Characters are read as the bytes that they spell. -/
theorem pairs?_eq_some_iff {cs : List Char} {bs : List UInt8} :
    pairs? cs = some bs ↔ Spells cs bs := by
  fun_induction pairs? cs generalizing bs with
  | case1 =>
    constructor
    · rintro ⟨⟩
      exact .nil
    · rintro ⟨⟩
      rfl
  | case2 high low cs ih =>
    simp only [Option.bind_eq_bind, Option.bind_eq_some_iff, byte?_eq_some_iff, ih,
      Option.some.injEq]
    constructor
    · rintro ⟨b, hb, bs, hbs, rfl⟩
      exact .cons hb hbs
    · intro h
      cases h with
      | cons hb hbs => exact ⟨_, hb, _, hbs, rfl⟩
  | case3 c =>
    constructor
    · intro h
      cases h
    · intro h
      cases h

/-- A byte string is read from the characters that begin with `0x` and then spell its bytes. -/
theorem ofChars?_eq_some_iff {cs : List Char} {b : ByteString} :
    ofChars? cs = some b ↔ ∃ rest, cs = '0' :: 'x' :: rest ∧ Spells rest b.bytes := by
  unfold ofChars?
  split
  · rename_i rest
    rw [Option.map_eq_some_iff]
    constructor
    · rintro ⟨bs, hbs, rfl⟩
      exact ⟨rest, rfl, pairs?_eq_some_iff.mp hbs⟩
    · rintro ⟨_, hsame, hspells⟩
      cases hsame
      exact ⟨b.bytes, pairs?_eq_some_iff.mpr hspells, rfl⟩
  · rename_i hother
    refine iff_of_false nofun ?_
    rintro ⟨rest, hsame, -⟩
    exact hother rest hsame

/-! ## Pieces of two bytes -/

/-- Cut at every second byte, a text falls into pairs that spell the bytes. -/
def SlicesSpell (cs : List Char) (bs : List UInt8) : Prop :=
  Text.byteCount cs = 2 * bs.length ∧
    ∀ (i : Nat) (hi : i < bs.length), ∃ high low,
      Text.between? (2 * i) (2 * i + 2) cs = some [high, low] ∧ SpellsByte high low bs[i]

/-- Behind two characters of one byte, all places are two bytes further on. -/
theorem between?_cons_cons {high low : Char} (hhigh : high.utf8Size = 1) (hlow : low.utf8Size = 1)
    (start stop : Nat) (cs : List Char) :
    Text.between? (start + 2) (stop + 2) (high :: low :: cs) = Text.between? start stop cs := by
  have hdrop : Text.dropBytes? (start + 2) (high :: low :: cs) = Text.dropBytes? start cs := by
    rw [Text.dropBytes?, hhigh, if_pos (by omega), Nat.add_sub_cancel, Text.dropBytes?, hlow,
      if_pos (by omega), Nat.add_sub_cancel]
  rw [Text.between?, Text.between?, hdrop, Nat.add_sub_add_right]

/-- Pairs that spell bytes are the pieces that a cut at every second byte leaves. -/
theorem Spells.slices {cs : List Char} {bs : List UInt8} (h : Spells cs bs) :
    SlicesSpell cs bs := by
  induction h with
  | nil => exact ⟨rfl, nofun⟩
  | @cons high low b cs bs hb hbs ih =>
    obtain ⟨hcount, hslices⟩ := ih
    obtain ⟨hhigh, hlow⟩ := hb.utf8Size_eq
    constructor
    · rw [Text.byteCount_cons, Text.byteCount_cons, hcount, hhigh, hlow, List.length_cons]
      omega
    · intro i hi
      cases i with
      | zero =>
        refine ⟨high, low, Text.between?_eq_some_iff.mpr ⟨[], cs, rfl, rfl, ?_⟩, hb⟩
        rw [Text.byteCount_cons, Text.byteCount_cons, hhigh, hlow, Text.byteCount_nil]
      | succ i =>
        obtain ⟨h, l, hcut, hspells⟩ := hslices i (Nat.lt_of_succ_lt_succ hi)
        refine ⟨h, l, ?_, hspells⟩
        rw [Nat.mul_succ, between?_cons_cons hhigh hlow]
        exact hcut

/-- Pieces of two bytes that spell bytes are pairs of characters. -/
theorem SlicesSpell.spells {cs : List Char} {bs : List UInt8} (h : SlicesSpell cs bs) :
    Spells cs bs := by
  obtain ⟨hcount, hslices⟩ := h
  induction bs generalizing cs with
  | nil =>
    obtain rfl : cs = [] := Text.byteCount_eq_zero.mp hcount
    exact .nil
  | cons b bs ih =>
    -- the first piece stands at the beginning, and the others are pieces of what follows
    obtain ⟨high, low, hcut, hb⟩ := hslices 0 (Nat.succ_pos _)
    obtain ⟨hhigh, hlow⟩ := hb.utf8Size_eq
    obtain ⟨before, after, hcs, hbefore, -⟩ := Text.between?_eq_some_iff.mp hcut
    obtain rfl : before = [] := Text.byteCount_eq_zero.mp hbefore
    obtain rfl : cs = high :: low :: after := hcs
    refine .cons hb (ih ?_ ?_)
    · rw [Text.byteCount_cons, Text.byteCount_cons, hhigh, hlow, List.length_cons] at hcount
      omega
    · intro i hi
      obtain ⟨h, l, hcut, hspells⟩ := hslices (i + 1) (Nat.succ_lt_succ hi)
      rw [Nat.mul_succ, between?_cons_cons hhigh hlow] at hcut
      exact ⟨h, l, hcut, hspells⟩

/-- **It comes to the same whether a text is taken by characters or by bytes.** -/
theorem spells_iff_slices {cs : List Char} {bs : List UInt8} : Spells cs bs ↔ SlicesSpell cs bs :=
  ⟨Spells.slices, SlicesSpell.spells⟩

/-! ## Written again -/

namespace Spells

variable {cs : List Char} {bs : List UInt8}

/-- The characters that spell bytes take one byte each. -/
theorem utf8Size_eq (h : Spells cs bs) : ∀ c ∈ cs, c.utf8Size = 1 := by
  induction h with
  | nil => nofun
  | cons hb hbs ih =>
    obtain ⟨hhigh, hlow⟩ := hb.utf8Size_eq
    exact List.forall_mem_cons.mpr ⟨hhigh, List.forall_mem_cons.mpr ⟨hlow, ih⟩⟩

/-- Bytes are written as the characters that spell them, in lower case, exactly if none of these is
a sign. -/
theorem flatMap_ofByte_eq_iff (h : Spells cs bs) :
    bs.flatMap ofByte = cs.map Char.toLower ↔ '+' ∉ cs := by
  induction h with
  | nil => exact iff_of_true rfl List.not_mem_nil
  | @cons high low b cs bs hb hbs ih =>
    have hlow : '+' ≠ low := hb.low_ne_plus.symm
    have hsplit : ofByte b ++ bs.flatMap ofByte =
        [high.toLower, low.toLower] ++ cs.map Char.toLower ↔
        ofByte b = [high.toLower, low.toLower] ∧ bs.flatMap ofByte = cs.map Char.toLower := by
      constructor
      · intro h
        exact List.append_inj h rfl
      · rintro ⟨hfirst, hrest⟩
        rw [hfirst, hrest]
    rw [List.flatMap_cons, List.map_cons, List.map_cons]
    refine hsplit.trans ?_
    rw [hb.ofByte_eq_iff, ih, List.mem_cons, List.mem_cons, not_or, not_or, ne_comm]
    exact and_congr_right fun _ => (and_iff_right hlow).symm

end Spells

/-! ## Texts -/

/-- The places of a text are counted in the bytes of its encoding. -/
theorem byteCount_toList (s : String) : Text.byteCount s.toList = s.utf8ByteSize := by
  have hlist : ∀ cs : List Char, Text.byteCount cs = (String.ofList cs).utf8ByteSize := by
    intro cs
    induction cs with
    | nil => rfl
    | cons c cs ih =>
      have hsplit : String.ofList (c :: cs) = String.singleton c ++ String.ofList cs := by
        rw [String.singleton_eq_ofList, ← String.ofList_append]
        rfl
      rw [Text.byteCount_cons, ih, hsplit, String.utf8ByteSize_append,
        String.utf8ByteSize_singleton]
  rw [hlist, String.ofList_toList]

section Reader

variable {s : String} {b : ByteString}

/-- A text reads as the bytes that it spells after `0x`. -/
theorem ofText_eq_ok_iff :
    ofText s = .ok b ↔ ∃ cs, s.toList = '0' :: 'x' :: cs ∧ Spells cs b.bytes := by
  rw [← ofChars?_eq_some_iff, ofText]
  cases ofChars? s.toList with
  | none =>
    constructor
    · intro h
      cases h
    · intro h
      cases h
  | some b' => rw [Except.ok.injEq, Option.some.injEq]

/-- A text that does not spell bytes after `0x` is refused, and given back. -/
theorem ofText_eq_error_iff {e : Error} :
    ofText s = .error e ↔
      e = .invalidFormat s ∧ ¬∃ cs bs, s.toList = '0' :: 'x' :: cs ∧ Spells cs bs := by
  constructor
  · intro h
    refine ⟨?_, ?_⟩
    · rw [ofText] at h
      split at h
      · cases h
      · exact (Except.error.inj h).symm
    · rintro ⟨cs, bs, hcs, hspells⟩
      rw [ofText_eq_ok_iff (b := ⟨bs⟩).mpr ⟨cs, hcs, hspells⟩] at h
      cases h
  · rintro ⟨rfl, hnone⟩
    cases h : ofText s with
    | ok b =>
      obtain ⟨cs, hcs, hspells⟩ := ofText_eq_ok_iff.mp h
      exact absurd ⟨cs, b.bytes, hcs, hspells⟩ hnone
    | error e =>
      rw [ofText] at h
      split at h
      · cases h
      · exact congrArg Except.error (Except.error.inj h).symm

/-- A text that is read has only characters of one byte. -/
theorem utf8Size_eq_of_ofText (h : ofText s = .ok b) : ∀ c ∈ s.toList, c.utf8Size = 1 := by
  obtain ⟨cs, hcs, hspells⟩ := ofText_eq_ok_iff.mp h
  rw [hcs]
  exact List.forall_mem_cons.mpr
    ⟨rfl, List.forall_mem_cons.mpr ⟨rfl, hspells.utf8Size_eq⟩⟩

/-- A text that is read has two bytes for `0x` and two for each byte that it spells. -/
theorem utf8ByteSize_of_ofText (h : ofText s = .ok b) :
    s.utf8ByteSize = 2 * (b.length + 1) := by
  obtain ⟨cs, hcs, hspells⟩ := ofText_eq_ok_iff.mp h
  have hzero : '0'.utf8Size = 1 := rfl
  have hx : 'x'.utf8Size = 1 := rfl
  rw [← byteCount_toList, hcs, Text.byteCount_cons, Text.byteCount_cons, hspells.slices.1, hzero,
    hx, length]
  omega

/-- Written again, the bytes are the text in lower case exactly if there is no sign in it. -/
theorem text_eq_toLower_iff (h : ofText s = .ok b) : b.text = s.toLower ↔ '+' ∉ s.toList := by
  obtain ⟨cs, hcs, hspells⟩ := ofText_eq_ok_iff.mp h
  have hlower : s.toLower = s.map Char.toLower := rfl
  have hzero : '0'.toLower = '0' := rfl
  have hx : 'x'.toLower = 'x' := rfl
  have hsigns : '+' ∉ '0' :: 'x' :: cs ↔ '+' ∉ cs := by
    rw [List.mem_cons, List.mem_cons, not_or, not_or]
    exact ⟨fun h => h.2.2, fun h => ⟨by decide, by decide, h⟩⟩
  rw [← String.toList_inj, text_toList, chars, hlower, String.toList_map, hcs, hsigns,
    List.map_cons, List.map_cons, hzero, hx, List.cons.injEq, List.cons.injEq,
    ← hspells.flatMap_ofByte_eq_iff]
  exact ⟨fun h => h.2.2, fun h => ⟨rfl, rfl, h⟩⟩

end Reader

/-- **The texts of byte strings.** What is written reads back. A text reads as a byte string exactly
if it is `0x` and then pairs that spell the bytes in order, which are also the pieces between every
second byte of its encoding. Any other text is refused and given back, and so is one with an odd
number of bytes or with a character of more than one byte. Written again, the bytes are the text in
lower case exactly if there is no sign in it. -/
theorem ofText_eq_ok_iff_pairs :
    (∀ b : ByteString, ofText b.text = .ok b) ∧
      (∀ cs bs, Spells cs bs ↔ SlicesSpell cs bs) ∧
      ∀ s : String,
        (∀ b, ofText s = .ok b ↔ ∃ cs, s.toList = '0' :: 'x' :: cs ∧ Spells cs b.bytes) ∧
        (∀ e, ofText s = .error e ↔
          e = .invalidFormat s ∧ ¬∃ cs bs, s.toList = '0' :: 'x' :: cs ∧ Spells cs bs) ∧
        (s.utf8ByteSize % 2 = 1 → ofText s = .error (.invalidFormat s)) ∧
        ((∃ c ∈ s.toList, 1 < c.utf8Size) → ofText s = .error (.invalidFormat s)) ∧
        ∀ b, ofText s = .ok b → (b.text = s.toLower ↔ '+' ∉ s.toList) := by
  refine ⟨ofText_text, fun _ _ => spells_iff_slices, ?_⟩
  intro s
  -- a text that is not read is refused as itself, so it is enough that it is not read
  have hrefused : (∀ b, ofText s ≠ .ok b) → ofText s = .error (.invalidFormat s) := by
    intro hnone
    refine ofText_eq_error_iff.mpr ⟨rfl, ?_⟩
    rintro ⟨cs, bs, hcs, hspells⟩
    exact hnone ⟨bs⟩ (ofText_eq_ok_iff.mpr ⟨cs, hcs, hspells⟩)
  refine ⟨fun _ => ofText_eq_ok_iff, fun _ => ofText_eq_error_iff, ?_, ?_,
    fun _ h => text_eq_toLower_iff h⟩
  · intro hodd
    refine hrefused fun b h => ?_
    have hsize := utf8ByteSize_of_ofText h
    omega
  · rintro ⟨c, hc, hsize⟩
    refine hrefused fun b h => ?_
    have hone := utf8Size_eq_of_ofText h c hc
    omega

/-- A sign is read and not written again; a letter with an accent takes two bytes, and is no pair
all the same. -/
theorem ofText_eq_ok_iff_pairs_sign :
    ofText "0x0A+f" = .ok ⟨[10, 15]⟩ ∧ text ⟨[10, 15]⟩ ≠ "0x0A+f".toLower ∧
      ofText "0xé" = .error (.invalidFormat "0xé") ∧
      ofText "0x0a0" = .error (.invalidFormat "0x0a0") := by
  obtain ⟨-, -, htext⟩ := ofText_eq_ok_iff_pairs
  have hread : ofText "0x0A+f" = .ok ⟨[10, 15]⟩ := by rfl
  obtain ⟨-, -, -, haccent, -⟩ := htext "0xé"
  obtain ⟨-, -, hodd, -⟩ := htext "0x0a0"
  refine ⟨hread, ?_, haccent ⟨'é', by decide, by decide⟩, hodd (by rfl)⟩
  rw [Ne, (htext "0x0A+f").2.2.2.2 _ hread]
  decide

end ByteString

end UserPlane
