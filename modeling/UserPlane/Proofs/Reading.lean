import UserPlane.Proofs.Number
import UserPlane.Proofs.Network
import UserPlane.Codec.Reading

/-! # What the readers accept

A match key or an action **tells** something under a name if the first field match or parameter of
that name does, whatever else there is (`MatchKey.find?_eq_some_iff_append` and
`Action.param?_eq_some_iff_append`): a number if the bytes denote it, a prefix if the value and the
length do, a range if both bounds do and it holds a port. Each reader gives a value exactly if that
value is told (`byteOf_eq_ok_iff` and so on), so what a reader returns depends on nothing but what
is told. **`ToldWhen`** says the same of an optional value that only some entries tell. -/

namespace UserPlane

/-- A range holds a port exactly if its bounds are in order. -/
theorem PortRange.isEmpty_eq_false_iff {r : PortRange} : r.isEmpty = false ↔ r.low ≤ r.high := by
  rw [isEmpty, decide_eq_false_iff_not, UInt16.not_lt]

/-- A range is empty exactly if its bounds are out of order. -/
theorem PortRange.isEmpty_eq_true_iff {r : PortRange} : r.isEmpty = true ↔ ¬r.low ≤ r.high := by
  rw [← isEmpty_eq_false_iff, Bool.not_eq_false]

/-! ## Field matches -/

namespace MatchKey

/-- The first match on a field is exact, on bytes that denote a number. -/
def TellsNumber (key : MatchKey) (field : FieldId) (n : Nat) : Prop :=
  ∃ b, key.find? field = some ⟨field, .exact b⟩ ∧ b.value = n

/-- The first match on a field is a prefix match, around an address and of a length that a prefix
has. -/
def TellsPrefix (key : MatchKey) (field : FieldId) (p : Prefix) : Prop :=
  ∃ b length, key.find? field = some ⟨field, .longestPrefix b length⟩ ∧
    b.value < 2 ^ 32 ∧ p.IsAround b.value length.toNat

/-- The first match on a field is a range match, between the two bounds of a range with ports. -/
def TellsPorts (key : MatchKey) (field : FieldId) (r : PortRange) : Prop :=
  ∃ low high, key.find? field = some ⟨field, .range low high⟩ ∧
    low.value = r.low.toNat ∧ high.value = r.high.toNat ∧ r.low ≤ r.high

/-- The first match on a field is a ternary match that compares all bits of one byte. -/
def TellsMaskedNumber (key : MatchKey) (field : FieldId) (n : Nat) : Prop :=
  ∃ b mask, key.find? field = some ⟨field, .ternary b mask⟩ ∧ mask.value = 255 ∧ b.value = n

/-- What is found under a field matches on that field. -/
theorem field_of_find? {key : MatchKey} {field : FieldId} {m : FieldMatch}
    (h : key.find? field = some m) : m.field = field :=
  (find?_eq_some_iff_append.mp h).1

/-- A look-up finds nothing, or a match on the field. -/
theorem find?_eq_none_or (key : MatchKey) (field : FieldId) :
    key.find? field = none ∨ ∃ v, key.find? field = some ⟨field, v⟩ := by
  cases hfind : key.find? field with
  | none => exact Or.inl rfl
  | some m =>
    obtain ⟨mfield, v⟩ := m
    obtain rfl : mfield = field := field_of_find? hfind
    exact Or.inr ⟨v, rfl⟩

/-- A key matches on the fields of its matches. -/
theorem contains_iff {key : MatchKey} {field : FieldId} :
    key.contains field = true ↔ ∃ m ∈ key.fieldMatches, m.field = field := by
  rw [contains, find?, Keyed.find?, List.find?_isSome]
  simp only [decide_eq_true_eq]

/-- The value of a field is that of the first match on it. -/
theorem valueOf_eq_ok_iff {key : MatchKey} {field : FieldId} {v : MatchValue} :
    key.valueOf field = .ok v ↔ key.find? field = some ⟨field, v⟩ := by
  rw [valueOf]
  cases hfind : key.find? field with
  | none => simp
  | some m =>
    obtain ⟨mfield, mvalue⟩ := m
    obtain rfl : mfield = field := field_of_find? hfind
    simp

/-- The bytes of a field are those of an exact match. -/
theorem exactValue_eq_ok_iff {key : MatchKey} {field : FieldId} {b : ByteString} :
    key.exactValue field = .ok b ↔ key.find? field = some ⟨field, .exact b⟩ := by
  rw [exactValue, bind_eq_ok_iff, ← valueOf_eq_ok_iff]
  constructor
  · rintro ⟨v, hv, h⟩
    cases v with
    | exact value =>
      cases h
      exact hv
    | longestPrefix value length => cases h
    | ternary value mask => cases h
    | range low high => cases h
  · intro h
    exact ⟨_, h, rfl⟩

/-- A reader of exact matches that goes by the number gives what is told. -/
theorem readExact_eq_ok_iff {α : Type} {read : ByteString → Except ByteString.Error α}
    {number : α → Nat} (hread : ∀ {b a}, read b = .ok a ↔ b.value = number a)
    {key : MatchKey} {field : FieldId} {a : α} :
    (key.exactValue field >>= fun b => FieldError.naming field.name (read b)) = .ok a ↔
      key.TellsNumber field (number a) := by
  rw [bind_eq_ok_iff, TellsNumber]
  constructor
  · rintro ⟨b, hb, h⟩
    exact ⟨b, exactValue_eq_ok_iff.mp hb, hread.mp (mapError_eq_ok_iff.mp h)⟩
  · rintro ⟨b, hb, h⟩
    exact ⟨b, exactValue_eq_ok_iff.mpr hb, mapError_eq_ok_iff.mpr (hread.mpr h)⟩

/-- A byte is read exactly if it is told. -/
theorem byteOf_eq_ok_iff {key : MatchKey} {field : FieldId} {n : UInt8} :
    key.byteOf field = .ok n ↔ key.TellsNumber field n.toNat :=
  readExact_eq_ok_iff ByteString.toUInt8_eq_ok_iff

/-- A word is read exactly if it is told. -/
theorem wordOf_eq_ok_iff {key : MatchKey} {field : FieldId} {n : UInt32} :
    key.wordOf field = .ok n ↔ key.TellsNumber field n.toNat :=
  readExact_eq_ok_iff ByteString.toUInt32_eq_ok_iff

/-- An address is read exactly if its number is told. -/
theorem addressOf_eq_ok_iff {key : MatchKey} {field : FieldId} {a : Address} :
    key.addressOf field = .ok a ↔ key.TellsNumber field a.bits.toNat :=
  readExact_eq_ok_iff ByteString.toAddress_eq_ok_iff

/-- The prefix around an address is read exactly if the length is one that a prefix has. -/
theorem prefixAround_eq_ok_iff {field : FieldId} {address : Address} {length : UInt32}
    {p : Prefix} :
    prefixAround field address length = .ok p ↔
      p.IsAround address.bits.toNat length.toNat := by
  have hp : p.length.toNat ≤ 32 := p.toNat_length_le
  rw [prefixAround]
  by_cases hbyte : length < 256
  · have hnat : length.toUInt8.toNat = length.toNat := by
      rw [UInt32.toNat_toUInt8, Nat.mod_eq_of_lt (show length.toNat < 2 ^ 8 from hbyte)]
    rw [if_pos hbyte, mapError_eq_ok_iff, Prefix.around_eq_ok_iff, hnat]
  · -- a length that is no byte is one that no prefix has
    rw [if_neg hbyte]
    constructor
    · intro h
      cases h
    · rintro ⟨hlength, -⟩
      have hlt : length.toNat < 256 := by omega
      exact absurd hlt hbyte

/-- There is a prefix of every length that an address has bits for. -/
theorem exists_prefixAround (field : FieldId) (address : Address) {length : UInt32}
    (h : length.toNat ≤ 32) : ∃ p, prefixAround field address length = .ok p := by
  have hbyte : length < 256 := UInt32.lt_iff_toNat_lt.mpr (lt_of_le_of_lt h (by decide))
  have hle : length.toUInt8 ≤ Prefix.maxLength := by
    rw [UInt8.le_iff_toNat_le, UInt32.toNat_toUInt8]
    exact le_trans (Nat.mod_le _ _) h
  rw [prefixAround, if_pos hbyte, Prefix.around, dif_pos hle]
  exact ⟨_, rfl⟩

/-- Nothing but the length can be wrong with a prefix around an address. -/
theorem prefixAround_eq_error {field : FieldId} {address : Address} {length : UInt32}
    {e : FieldError} (h : prefixAround field address length = .error e) :
    e = .invalidLength field length := by
  rw [prefixAround] at h
  split at h
  · cases hp : Prefix.around address length.toUInt8 with
    | ok p =>
      rw [hp] at h
      cases h
    | error cause =>
      rw [hp] at h
      exact (Except.error.inj h).symm
  · exact (Except.error.inj h).symm

/-- A prefix is read exactly if it is told. -/
theorem prefixOf_eq_ok_iff {key : MatchKey} {field : FieldId} {p : Prefix} :
    key.prefixOf field = .ok p ↔ key.TellsPrefix field p := by
  rw [prefixOf, bind_eq_ok_iff, TellsPrefix]
  constructor
  · rintro ⟨v, hv, h⟩
    -- a value of any other kind is refused, whatever its bytes are
    cases v with
    | longestPrefix value length =>
      obtain ⟨address, haddress, hp⟩ := bind_eq_ok_iff.mp h
      have hvalue : value.value = address.bits.toNat :=
        ByteString.toAddress_eq_ok_iff.mp (mapError_eq_ok_iff.mp haddress)
      refine ⟨value, length, valueOf_eq_ok_iff.mp hv, ?_, ?_⟩
      · rw [hvalue]
        exact address.bits.toNat_lt
      · rw [hvalue]
        exact prefixAround_eq_ok_iff.mp hp
    | exact value => cases h
    | ternary value mask => cases h
    | range low high => cases h
  · rintro ⟨value, length, hfind, hlt, hp⟩
    have hbits : (UInt32.ofNat value.value).toNat = value.value := UInt32.toNat_ofNat_of_lt' hlt
    have haddress : value.toAddress = .ok ⟨.ofNat value.value⟩ :=
      ByteString.toAddress_eq_ok_iff.mpr hbits.symm
    refine ⟨_, valueOf_eq_ok_iff.mpr hfind, bind_eq_ok_iff.mpr ⟨⟨.ofNat value.value⟩, ?_, ?_⟩⟩
    · exact mapError_eq_ok_iff.mpr haddress
    · rw [prefixAround_eq_ok_iff, hbits]
      exact hp

/-- A range is read exactly if it is told. -/
theorem portsOf_eq_ok_iff {key : MatchKey} {field : FieldId} {r : PortRange} :
    key.portsOf field = .ok r ↔ key.TellsPorts field r := by
  rw [portsOf, bind_eq_ok_iff, TellsPorts]
  constructor
  · rintro ⟨v, hv, h⟩
    cases v with
    | range low high =>
      obtain ⟨l, hl, h⟩ := bind_eq_ok_iff.mp h
      obtain ⟨u, hu, h⟩ := bind_eq_ok_iff.mp h
      cases hempty : (PortRange.mk l u).isEmpty with
      | true =>
        rw [if_pos hempty] at h
        cases h
      | false =>
        rw [if_neg (by rw [hempty]; decide)] at h
        cases h
        exact ⟨low, high, valueOf_eq_ok_iff.mp hv,
          ByteString.toUInt16_eq_ok_iff.mp (mapError_eq_ok_iff.mp hl),
          ByteString.toUInt16_eq_ok_iff.mp (mapError_eq_ok_iff.mp hu),
          PortRange.isEmpty_eq_false_iff.mp hempty⟩
    | exact value => cases h
    | longestPrefix value length => cases h
    | ternary value mask => cases h
  · rintro ⟨low, high, hfind, hlow, hhigh, hle⟩
    have hl : low.toUInt16 = .ok r.low := ByteString.toUInt16_eq_ok_iff.mpr hlow
    have hu : high.toUInt16 = .ok r.high := ByteString.toUInt16_eq_ok_iff.mpr hhigh
    have hempty : r.isEmpty = false := PortRange.isEmpty_eq_false_iff.mpr hle
    refine ⟨_, valueOf_eq_ok_iff.mpr hfind, ?_⟩
    refine bind_eq_ok_iff.mpr ⟨r.low, mapError_eq_ok_iff.mpr hl, ?_⟩
    refine bind_eq_ok_iff.mpr ⟨r.high, mapError_eq_ok_iff.mpr hu, ?_⟩
    rw [if_neg (by rw [hempty]; decide)]

/-- A byte under a full mask is read exactly if it is told. -/
theorem maskedByteOf_eq_ok_iff {key : MatchKey} {field : FieldId} {n : UInt8} :
    key.maskedByteOf field = .ok n ↔ key.TellsMaskedNumber field n.toNat := by
  rw [maskedByteOf, bind_eq_ok_iff, TellsMaskedNumber]
  constructor
  · rintro ⟨v, hv, h⟩
    cases v with
    | ternary value mask =>
      obtain ⟨bits, hbits, h⟩ := bind_eq_ok_iff.mp h
      have hmask : mask.value = bits.toNat :=
        ByteString.toUInt8_eq_ok_iff.mp (mapError_eq_ok_iff.mp hbits)
      -- the mask is read as a number too, so leading zeros do not spoil it
      by_cases hfull : bits = 0xff
      · rw [if_pos hfull] at h
        refine ⟨value, mask, valueOf_eq_ok_iff.mp hv, ?_, ?_⟩
        · rw [hmask, hfull]
          rfl
        · exact ByteString.toUInt8_eq_ok_iff.mp (mapError_eq_ok_iff.mp h)
      · rw [if_neg hfull] at h
        cases h
    | exact value => cases h
    | longestPrefix value length => cases h
    | range low high => cases h
  · rintro ⟨value, mask, hfind, hmask, hvalue⟩
    have hfull : mask.toUInt8 = .ok 0xff := ByteString.toUInt8_eq_ok_iff.mpr hmask
    have hbyte : value.toUInt8 = .ok n := ByteString.toUInt8_eq_ok_iff.mpr hvalue
    refine ⟨_, valueOf_eq_ok_iff.mpr hfind, ?_⟩
    refine bind_eq_ok_iff.mpr ⟨0xff, mapError_eq_ok_iff.mpr hfull, ?_⟩
    rw [if_pos rfl]
    exact mapError_eq_ok_iff.mpr hbyte

end MatchKey

/-! ## Parameters -/

namespace Action

/-- The first parameter of a name holds bytes that denote a number. -/
def TellsNumber (a : Action) (param : ParamId) (n : Nat) : Prop :=
  ∃ b, a.param? param = some ⟨param, b⟩ ∧ b.value = n

/-- A parameter tells one number. -/
theorem TellsNumber.unique {a : Action} {param : ParamId} {m n : Nat} (h : a.TellsNumber param m)
    (h' : a.TellsNumber param n) : m = n := by
  obtain ⟨b, hb, rfl⟩ := h
  obtain ⟨b', hb', rfl⟩ := h'
  cases hb.symm.trans hb'
  rfl

/-- What is found under a name is a parameter of that name. -/
theorem id_of_param? {a : Action} {param : ParamId} {p : ActionParam}
    (h : a.param? param = some p) : p.id = param :=
  (param?_eq_some_iff_append.mp h).1

/-- The bytes of a parameter are those of the first one of its name. -/
theorem valueOf_eq_ok_iff {a : Action} {param : ParamId} {b : ByteString} :
    a.valueOf param = .ok b ↔ a.param? param = some ⟨param, b⟩ := by
  rw [valueOf]
  cases hfind : a.param? param with
  | none => simp
  | some p =>
    obtain ⟨id, value⟩ := p
    obtain rfl : id = param := id_of_param? hfind
    simp

/-- A reader of parameters that goes by the number gives what is told. -/
theorem read_eq_ok_iff {α : Type} {read : ByteString → Except ByteString.Error α}
    {number : α → Nat} (hread : ∀ {b a}, read b = .ok a ↔ b.value = number a)
    {action : Action} {param : ParamId} {a : α} :
    (action.valueOf param >>= fun b => FieldError.naming param.name (read b)) = .ok a ↔
      action.TellsNumber param (number a) := by
  rw [bind_eq_ok_iff, TellsNumber]
  constructor
  · rintro ⟨b, hb, h⟩
    exact ⟨b, valueOf_eq_ok_iff.mp hb, hread.mp (mapError_eq_ok_iff.mp h)⟩
  · rintro ⟨b, hb, h⟩
    exact ⟨b, valueOf_eq_ok_iff.mpr hb, mapError_eq_ok_iff.mpr (hread.mpr h)⟩

/-- A byte is read exactly if it is told. -/
theorem byteOf_eq_ok_iff {a : Action} {param : ParamId} {n : UInt8} :
    a.byteOf param = .ok n ↔ a.TellsNumber param n.toNat :=
  read_eq_ok_iff ByteString.toUInt8_eq_ok_iff

/-- A port is read exactly if it is told. -/
theorem portOf_eq_ok_iff {a : Action} {param : ParamId} {n : UInt16} :
    a.portOf param = .ok n ↔ a.TellsNumber param n.toNat :=
  read_eq_ok_iff ByteString.toUInt16_eq_ok_iff

/-- A word is read exactly if it is told. -/
theorem wordOf_eq_ok_iff {a : Action} {param : ParamId} {n : UInt32} :
    a.wordOf param = .ok n ↔ a.TellsNumber param n.toNat :=
  read_eq_ok_iff ByteString.toUInt32_eq_ok_iff

/-- An address is read exactly if its number is told. -/
theorem addressOf_eq_ok_iff {a : Action} {param : ParamId} {address : Address} :
    a.addressOf param = .ok address ↔ a.TellsNumber param address.bits.toNat :=
  read_eq_ok_iff ByteString.toAddress_eq_ok_iff

end Action

/-! ## The entry itself -/

namespace TableEntry

/-- The action of an entry is read exactly if it has one. -/
theorem requireAction_eq_ok_iff {e : TableEntry} {a : Action} :
    e.requireAction = .ok a ↔ e.action = some a := by
  rw [requireAction]
  cases e.action with
  | none => simp
  | some b => simp

/-- The priority of an entry is read exactly if it has one. -/
theorem requirePriority_eq_ok_iff {e : TableEntry} {p : Int32} :
    e.requirePriority = .ok p ↔ e.priority = some p := by
  rw [requirePriority]
  cases e.priority with
  | none => simp
  | some q => simp

end TableEntry

/-! ## Optional values -/

/-- An optional value is there exactly under a condition, and is then told. -/
def ToldWhen {α : Type} (condition : Prop) (Tells : α → Prop) : Option α → Prop
  | some a => condition ∧ Tells a
  | none => ¬condition

namespace ToldWhen

variable {α : Type} {condition : Prop} {Tells : α → Prop} {value : Option α}

@[simp] theorem some_iff {a : α} : ToldWhen condition Tells (some a) ↔ condition ∧ Tells a :=
  Iff.rfl

@[simp] theorem none_iff : ToldWhen condition Tells none ↔ ¬condition := Iff.rfl

/-- What is told under a condition depends on the condition and on what is then told. -/
theorem congr {condition' : Prop} {Tells' : α → Prop} (hcondition : condition ↔ condition')
    (htells : condition → ∀ a, Tells a ↔ Tells' a) :
    ToldWhen condition Tells value ↔ ToldWhen condition' Tells' value := by
  cases value with
  | none => exact not_congr hcondition
  | some a =>
    rw [some_iff, some_iff, ← hcondition]
    exact and_congr_right fun h => htells h a

/-- A value that is told under a condition is there if the condition holds. -/
theorem exists_some (h : ToldWhen condition Tells value) (hcondition : condition) :
    ∃ a, value = some a ∧ Tells a := by
  cases value with
  | none => exact absurd hcondition h
  | some a => exact ⟨a, rfl, h.2⟩

/-- A value that is told under a condition is not there without it. -/
theorem eq_none (h : ToldWhen condition Tells value) (hcondition : ¬condition) :
    value = none := by
  cases value with
  | none => rfl
  | some a => exact absurd h.1 hcondition

end ToldWhen

end UserPlane
