import UserPlane.Proofs.Number
import UserPlane.Proofs.Conformance

/-! # Slots

A table holds one entry for each match key and priority: a second one in the same **slot**
(`TableEntry.SameSlot`) takes the place of the first. On the side of the entities, each kind has
fields that say which entity it is, its **identity** (`Entity.identity`); the others say what
becomes of its traffic. The match key is written from the identity alone (`Emits.matchKey_eq`), and
nothing of the identity is lost on the way, since every way of writing a field match is injective.
So **two entities share a slot exactly if they are of one kind and have one identity**. -/

namespace UserPlane

/-- Two entries of which a table can hold only one. -/
structure TableEntry.SameSlot (a b : TableEntry) : Prop where
  /-- The entries belong to the same table. -/
  table : a.table = b.table
  /-- The entries match the same packets. -/
  matchKey : a.matchKey = b.matchKey
  /-- Neither entry goes before the other. -/
  priority : a.priority = b.priority

/-- What tells an entity from the others of its kind. -/
inductive Entity.Identity where
  /-- An interface is known by its prefix. -/
  | network (network : Prefix)
  /-- An uplink session is known by the tunnel that it comes through. -/
  | tunnel (destination : Address) (teid : UInt32)
  /-- A downlink session is known by the user equipment. -/
  | subscriber (ueAddress : Address)
  /-- A termination is known by the user equipment and the application. -/
  | flow (ueAddress : Address) (application : UInt8)
  /-- A tunnel peer is known by its number. -/
  | peer (id : UInt8)
  /-- An application is known by its filter and how the filter ranks. -/
  | filter (priority : Int32) (network : Option Prefix) (ports : Option PortRange)
    (protocol : Option UInt8)
  /-- A counter is known by its cell. -/
  | cell (cell : UInt32)
deriving DecidableEq

/-- Which entity an entity is, among those of its kind. -/
def Entity.identity : Entity → Identity
  | interface i => .network i.network
  | uplinkSession s => .tunnel s.tunnelDestination s.teid
  | downlinkSession s => .subscriber s.ueAddress
  | uplinkTermination t => .flow t.ueAddress t.application
  | downlinkTermination t => .flow t.ueAddress t.application
  | tunnelPeer p => .peer p.id
  | application app => .filter app.priority app.network app.ports app.protocol
  | counter c => .cell c.cell

/-! ## Different values are written differently -/

namespace ByteString

/-- What denotes a number that is known from it is written differently for different values. -/
theorem write_inj_of_value {α : Type} {write : α → ByteString} {toNat : α → Nat}
    (hvalue : ∀ a, (write a).value = toNat a) (htoNat : ∀ {a b}, toNat a = toNat b ↔ a = b)
    {a b : α} : write a = write b ↔ a = b := by
  constructor
  · intro h
    rw [← htoNat, ← hvalue a, ← hvalue b, h]
  · rintro rfl
    rfl

/-- Different bytes are written differently. -/
@[simp] theorem ofUInt8_inj {m n : UInt8} : ofUInt8 m = ofUInt8 n ↔ m = n :=
  write_inj_of_value value_ofUInt8 UInt8.toNat_inj

/-- Different numbers of two bytes are written differently. -/
@[simp] theorem ofUInt16_inj {m n : UInt16} : ofUInt16 m = ofUInt16 n ↔ m = n :=
  write_inj_of_value value_ofUInt16 UInt16.toNat_inj

/-- Different numbers of four bytes are written differently. -/
@[simp] theorem ofUInt32_inj {m n : UInt32} : ofUInt32 m = ofUInt32 n ↔ m = n :=
  write_inj_of_value value_ofUInt32 UInt32.toNat_inj

/-- Different addresses are written differently. -/
@[simp] theorem ofAddress_inj {a b : Address} : ofAddress a = ofAddress b ↔ a = b := by
  obtain ⟨m⟩ := a
  obtain ⟨n⟩ := b
  rw [ofAddress_eq, ofAddress_eq, ofUInt32_inj, Address.mk.injEq]

end ByteString

namespace FieldMatch

variable {field : FieldId}

/-- Different bytes are matched differently. -/
@[simp] theorem ofByte_inj {m n : UInt8} : ofByte field m = ofByte field n ↔ m = n := by
  simp [ofByte]

/-- Different words are matched differently. -/
@[simp] theorem ofWord_inj {m n : UInt32} : ofWord field m = ofWord field n ↔ m = n := by
  simp [ofWord]

/-- Different addresses are matched differently. -/
@[simp] theorem ofAddress_inj {a b : Address} : ofAddress field a = ofAddress field b ↔ a = b := by
  simp [ofAddress]

/-- Different prefixes are matched differently. -/
@[simp] theorem ofPrefix_inj {p q : Prefix} : ofPrefix field p = ofPrefix field q ↔ p = q := by
  have hlength : p.length.toUInt32 = q.length.toUInt32 ↔ p.length = q.length := by
    rw [← UInt32.toNat_inj, UInt8.toNat_toUInt32, UInt8.toNat_toUInt32, UInt8.toNat_inj]
  simp [ofPrefix, Prefix.ext_iff, hlength]

/-- Different ranges of ports are matched differently. -/
@[simp] theorem ofPorts_inj {r s : PortRange} : ofPorts field r = ofPorts field s ↔ r = s := by
  obtain ⟨low, high⟩ := r
  obtain ⟨low', high'⟩ := s
  simp [ofPorts]

/-- Different bytes are matched differently under a full mask. -/
@[simp] theorem ofMaskedByte_inj {m n : UInt8} :
    ofMaskedByte field m = ofMaskedByte field n ↔ m = n := by
  simp [ofMaskedByte]

end FieldMatch

/-- The field matches of a filter tell what it is about. -/
theorem Application.filterMatches_inj {a b : Application} :
    a.filterMatches = b.filterMatches ↔
      a.network = b.network ∧ a.ports = b.ports ∧ a.protocol = b.protocol := by
  constructor
  · intro h
    obtain ⟨hnetwork, hports, hprotocol⟩ := a.find?_filterMatches
    obtain ⟨hnetwork', hports', hprotocol'⟩ := b.find?_filterMatches
    -- what is found under the three fields is the same, and tells the three parts
    rw [h, hnetwork'] at hnetwork
    rw [h, hports'] at hports
    rw [h, hprotocol'] at hprotocol
    refine ⟨?_, ?_, ?_⟩
    · exact (Option.map_injective (fun _ _ => FieldMatch.ofPrefix_inj.mp) hnetwork).symm
    · exact (Option.map_injective (fun _ _ => FieldMatch.ofPorts_inj.mp) hports).symm
    · exact (Option.map_injective (fun _ _ => FieldMatch.ofMaskedByte_inj.mp) hprotocol).symm
  · rintro ⟨hnetwork, hports, hprotocol⟩
    rw [filterMatches, filterMatches, hnetwork, hports, hprotocol]

/-! ## The match key of an identity -/

namespace Entity

/-- The field matches that tell an entity from others of its kind. -/
def keyMatches : Entity → List FieldMatch
  | interface i => [.ofPrefix .destinationPrefix i.network]
  | uplinkSession s => [.ofAddress .n3Address s.tunnelDestination, .ofWord .teid s.teid]
  | downlinkSession s => [.ofAddress .ueAddress s.ueAddress]
  | uplinkTermination t => [.ofAddress .ueAddress t.ueAddress, .ofByte .application t.application]
  | downlinkTermination t =>
    [.ofAddress .ueAddress t.ueAddress, .ofByte .application t.application]
  | tunnelPeer p => [.ofByte .tunnelPeer p.id]
  | application app => app.filterMatches
  | counter _ => []

variable {e f : Entity}

/-- Field matches and priority tell the identity of an entity whose kind is known. -/
theorem keyMatches_eq_iff {t : Pipeline.Table} (ht : Pipeline.tableFor? e.kind = some t)
    (hkind : e.kind = f.kind) :
    e.keyMatches = f.keyMatches ∧ e.priority? = f.priority? ↔ e.identity = f.identity := by
  -- entities of different kinds are ruled out by the names of the kinds
  cases e with
  | interface i =>
    cases f with
    | interface j => simp [keyMatches, priority?, identity]
    | _ => cases hkind
  | uplinkSession s =>
    cases f with
    | uplinkSession s' => simp [keyMatches, priority?, identity]
    | _ => cases hkind
  | downlinkSession s =>
    cases f with
    | downlinkSession s' => simp [keyMatches, priority?, identity]
    | _ => cases hkind
  | uplinkTermination t =>
    cases f with
    | uplinkTermination t' => simp [keyMatches, priority?, identity]
    | _ => cases hkind
  | downlinkTermination t =>
    cases f with
    | downlinkTermination t' => simp [keyMatches, priority?, identity]
    | _ => cases hkind
  | tunnelPeer p =>
    cases f with
    | tunnelPeer q => simp [keyMatches, priority?, identity]
    | _ => cases hkind
  | application app =>
    cases f with
    | application app' =>
      rw [keyMatches, keyMatches, Application.filterMatches_inj]
      simp only [priority?, identity, Option.some.injEq, Identity.filter.injEq]
      exact and_comm
    | _ => cases hkind
  | counter c => cases ht

end Entity

namespace Emits

variable {e f : Entity} {parts others : EntryParts}

/-- What is emitted matches on the identity, and on nothing else. -/
theorem matchKey_eq (h : Emits e parts) : parts.matchKey = ⟨e.keyMatches⟩ := by
  cases h with
  | _ => rfl

/-- Entities of one kind are emitted with one match key and priority exactly if they have one
identity. -/
theorem matchKey_eq_and_priority_eq_iff (h : Emits e parts) (h' : Emits f others)
    (hkind : e.kind = f.kind) :
    parts.matchKey = others.matchKey ∧ parts.priority = others.priority ↔
      e.identity = f.identity := by
  obtain ⟨t, ht⟩ := h.exists_tableFor?
  rw [h.matchKey_eq, h'.matchKey_eq, h.priority_eq, h'.priority_eq, MatchKey.mk.injEq]
  exact Entity.keyMatches_eq_iff ht hkind

end Emits

/-- Different kinds are held by tables with different names. -/
theorem Pipeline.id_eq_iff_of_tableFor? {k l : EntityKind} {t u : Table}
    (ht : tableFor? k = some t) (hu : tableFor? l = some u) : t.id = u.id ↔ k = l := by
  constructor
  · intro hid
    have hsame : some t = some u := by
      rw [← tableNamed?_of_tableFor? ht, ← tableNamed?_of_tableFor? hu, hid]
    rw [← kind_of_tableFor? ht, ← kind_of_tableFor? hu, Option.some.inj hsame]
  · rintro rfl
    rw [ht] at hu
    rw [Option.some.inj hu]

/-! ## Sharing a slot -/

namespace Entity

/-- **Two entities are programmed in one slot exactly if they are of one kind and have one
identity.** So whatever else changes about an entity updates its entry, and entities with different
identities leave each other alone. -/
theorem sameSlot_iff {e f : Entity} {r s : EncodedEntry} (he : e.encode = .ok r)
    (hf : f.encode = .ok s) :
    r.entry.SameSlot s.entry ↔ e.kind = f.kind ∧ e.identity = f.identity := by
  obtain ⟨t, parts, ht, hparts, rfl⟩ := encode_eq_ok_iff.mp he
  obtain ⟨u, others, hu, hothers, rfl⟩ := encode_eq_ok_iff.mp hf
  constructor
  · rintro ⟨htable, hkey, hpriority⟩
    have hkind : e.kind = f.kind := (Pipeline.id_eq_iff_of_tableFor? ht hu).mp htable
    exact ⟨hkind, (hparts.matchKey_eq_and_priority_eq_iff hothers hkind).mp ⟨hkey, hpriority⟩⟩
  · rintro ⟨hkind, hidentity⟩
    obtain ⟨hkey, hpriority⟩ :=
      (hparts.matchKey_eq_and_priority_eq_iff hothers hkind).mpr hidentity
    exact ⟨(Pipeline.id_eq_iff_of_tableFor? ht hu).mpr hkind, hkey, hpriority⟩

/-- Two filters that differ in application and slice only are in one slot; another protocol makes
it another slot. -/
theorem sameSlot_of_renamed_filter :
    ∃ r s q, (application ⟨7, -3, none, some ⟨80, 443⟩, some 17, 5⟩).encode = .ok r ∧
      (application ⟨9, -3, none, some ⟨80, 443⟩, some 17, 0⟩).encode = .ok s ∧
      (application ⟨7, -3, none, some ⟨80, 443⟩, some 6, 5⟩).encode = .ok q ∧
      r.entry.SameSlot s.entry ∧ ¬r.entry.SameSlot q.entry := by
  have hports : ∀ r, some (PortRange.mk 80 443) = some r → r.low ≤ r.high := by
    rintro _ ⟨⟩
    decide
  have hr := encode_eq_ok_iff.mpr
    ⟨_, _, rfl, .application ⟨7, -3, none, some ⟨80, 443⟩, some 17, 5⟩ hports, rfl⟩
  have hs := encode_eq_ok_iff.mpr
    ⟨_, _, rfl, .application ⟨9, -3, none, some ⟨80, 443⟩, some 17, 0⟩ hports, rfl⟩
  have hq := encode_eq_ok_iff.mpr
    ⟨_, _, rfl, .application ⟨7, -3, none, some ⟨80, 443⟩, some 6, 5⟩ hports, rfl⟩
  refine ⟨_, _, _, hr, hs, hq, (sameSlot_iff hr hs).mpr ⟨rfl, rfl⟩, ?_⟩
  rw [sameSlot_iff hr hq]
  decide

end Entity

end UserPlane
