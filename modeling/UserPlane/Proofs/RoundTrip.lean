import UserPlane.Proofs.Acceptance
import UserPlane.Proofs.Emission

/-! # There and back

A table entry does not keep all of an entity: a slice has no place in it, and an action that drops
or buffers has no parameters for what forwarding would need. **`Entity.normalized`** is an entity
without what is lost, and is what comes back from the entry, since what is emitted tells it
(`Emits.tells_normalized`). So exactly the entities that lose nothing come back as they were.

The advisory on a downlink session that was to drop and buffer shows another session than the one
that comes back: it no longer drops, but has kept its peer. -/

namespace UserPlane

/-! ## What is lost -/

/-- An interface without its slice. -/
def Interface.normalized (i : Interface) : Interface := { i with slice := 0 }

/-- A downlink session of which buffering goes before dropping, and which has no peer for traffic
that does not leave. -/
def DownlinkSession.normalized (s : DownlinkSession) : DownlinkSession :=
  if s.buffers then { s with tunnelPeer := none, drops := false }
  else if s.drops then { s with tunnelPeer := none }
  else s

/-- An uplink termination without a class for traffic that is dropped. -/
def UplinkTermination.normalized (t : UplinkTermination) : UplinkTermination :=
  if t.drops then { t with trafficClass := none } else t

/-- A downlink termination without a tunnel and a class for traffic that is dropped. -/
def DownlinkTermination.normalized (t : DownlinkTermination) : DownlinkTermination :=
  if t.drops then { t with teid := none, qfi := none, trafficClass := none } else t

/-- An application without its slice. -/
def Application.normalized (app : Application) : Application := { app with slice := 0 }

/-- An entity without what no table entry keeps. -/
def Entity.normalized : Entity → Entity
  | interface i => interface i.normalized
  | uplinkSession s => uplinkSession s
  | downlinkSession s => downlinkSession s.normalized
  | uplinkTermination t => uplinkTermination t.normalized
  | downlinkTermination t => downlinkTermination t.normalized
  | tunnelPeer p => tunnelPeer p
  | application app => application app.normalized
  | counter c => counter c

/-- What is lost does not change the kind. -/
theorem Entity.kind_normalized (e : Entity) : e.normalized.kind = e.kind := by
  cases e with
  | _ => rfl

/-! ## What an emitted entry tells -/

namespace MatchKey

variable {key : MatchKey} {field : FieldId}

/-- A match on a prefix tells it. -/
theorem tellsPrefix_of_find? {p : Prefix} (h : key.find? field = some (.ofPrefix field p)) :
    key.TellsPrefix field p := by
  refine ⟨_, _, h, ?_, ?_⟩
  · rw [ByteString.value_ofAddress]
    exact p.network.bits.toNat_lt
  · rw [ByteString.value_ofAddress, UInt8.toNat_toUInt32]
    exact p.isAround_self

/-- A match on a range tells it, if there is a port in it. -/
theorem tellsPorts_of_find? {r : PortRange} (h : key.find? field = some (.ofPorts field r))
    (hle : r.low ≤ r.high) : key.TellsPorts field r :=
  ⟨_, _, h, ByteString.value_ofUInt16 r.low, ByteString.value_ofUInt16 r.high, hle⟩

/-- A match on a byte under a full mask tells it. -/
theorem tellsMaskedNumber_of_find? {n : UInt8}
    (h : key.find? field = some (.ofMaskedByte field n)) :
    key.TellsMaskedNumber field n.toNat :=
  ⟨_, _, h, rfl, ByteString.value_ofUInt8 n⟩

/-- What is matched on if there is a value is told if it is matched on. -/
theorem toldWhen_of_find? {α : Type} {value : Option α} {say : α → FieldMatch} {Tells : α → Prop}
    (hfind : key.find? field = value.map say)
    (htells : ∀ a, value = some a → key.find? field = some (say a) → Tells a) :
    ToldWhen (key.contains field) Tells value := by
  rw [MatchKey.contains, hfind]
  cases value with
  | none => exact Bool.false_ne_true
  | some a => exact ⟨rfl, htells a rfl hfind⟩

end MatchKey

namespace Emits

open ByteString

variable {e : Entity} {parts : EntryParts}

/-- **What is emitted for an entity tells the entity without what is lost.** -/
theorem tells_normalized (h : Emits e parts) (table : TableId) :
    e.normalized.ToldBy (parts.entryIn table) parts.action := by
  cases h with
  -- the flags of a session or termination are told by the name of the action alone, so in each case
  -- the names that it is not are told apart first
  | accessInterface network slice =>
    exact ⟨MatchKey.tellsPrefix_of_find? rfl, Or.inl ⟨rfl, _, rfl, value_ofUInt8 1⟩, rfl⟩
  | coreInterface network slice =>
    exact ⟨MatchKey.tellsPrefix_of_find? rfl, Or.inr ⟨rfl, _, rfl, value_ofUInt8 2⟩, rfl⟩
  | admittedUplinkSession destination teid =>
    have hdrop : ActionId.setUplinkSession ≠ .dropUplinkSession := by decide
    exact ⟨⟨_, rfl, value_ofAddress _⟩, ⟨_, rfl, value_ofUInt32 _⟩, iff_of_false nofun hdrop⟩
  | droppedUplinkSession destination teid =>
    exact ⟨⟨_, rfl, value_ofAddress _⟩, ⟨_, rfl, value_ofUInt32 _⟩, iff_of_true rfl rfl⟩
  | bufferedDownlinkSession ue peer drops =>
    have hset : ActionId.bufferDownlinkSession ≠ .setDownlinkSession := by decide
    have hdrop : ActionId.bufferDownlinkSession ≠ .dropDownlinkSession := by decide
    exact ⟨⟨_, rfl, value_ofAddress _⟩, hset, iff_of_false nofun hdrop, iff_of_true rfl rfl⟩
  | droppedDownlinkSession ue peer =>
    have hset : ActionId.dropDownlinkSession ≠ .setDownlinkSession := by decide
    have hbuffer : ActionId.dropDownlinkSession ≠ .bufferDownlinkSession := by decide
    exact ⟨⟨_, rfl, value_ofAddress _⟩, hset, iff_of_true rfl rfl, iff_of_false nofun hbuffer⟩
  | forwardedDownlinkSession ue peer =>
    have hdrop : ActionId.setDownlinkSession ≠ .dropDownlinkSession := by decide
    have hbuffer : ActionId.setDownlinkSession ≠ .bufferDownlinkSession := by decide
    exact ⟨⟨_, rfl, value_ofAddress _⟩, ⟨rfl, _, rfl, value_ofUInt8 _⟩,
      iff_of_false nofun hdrop, iff_of_false nofun hbuffer⟩
  | droppedUplinkTermination ue app counter tc =>
    have hclass : ActionId.dropUplink ≠ .forwardUplink := by decide
    exact ⟨⟨_, rfl, value_ofAddress _⟩, ⟨_, rfl, value_ofUInt8 _⟩, ⟨_, rfl, value_ofUInt32 _⟩,
      hclass, iff_of_true rfl rfl⟩
  | classifiedUplinkTermination ue app counter tc =>
    have hdrop : ActionId.forwardUplink ≠ .dropUplink := by decide
    exact ⟨⟨_, rfl, value_ofAddress _⟩, ⟨_, rfl, value_ofUInt8 _⟩, ⟨_, rfl, value_ofUInt32 _⟩,
      ⟨rfl, _, rfl, value_ofUInt8 _⟩, iff_of_false nofun hdrop⟩
  | unclassifiedUplinkTermination ue app counter =>
    have hclass : ActionId.forwardUplinkUnclassified ≠ .forwardUplink := by decide
    have hdrop : ActionId.forwardUplinkUnclassified ≠ .dropUplink := by decide
    exact ⟨⟨_, rfl, value_ofAddress _⟩, ⟨_, rfl, value_ofUInt8 _⟩, ⟨_, rfl, value_ofUInt32 _⟩,
      hclass, iff_of_false nofun hdrop⟩
  | droppedDownlinkTermination ue app counter teid qfi tc =>
    have hstays : ¬ActionId.dropDownlink.ForwardsDownlink :=
      ActionId.not_forwardsDownlink_of_drop rfl
    have hclass : ActionId.dropDownlink ≠ .forwardDownlink := by decide
    exact ⟨⟨_, rfl, value_ofAddress _⟩, ⟨_, rfl, value_ofUInt8 _⟩, ⟨_, rfl, value_ofUInt32 _⟩,
      hstays, hstays, hclass, iff_of_true rfl rfl⟩
  | classifiedDownlinkTermination ue app counter teid qfi tc =>
    have hforwards : ActionId.forwardDownlink.ForwardsDownlink := Or.inl rfl
    have hdrop : ActionId.forwardDownlink ≠ .dropDownlink := by decide
    exact ⟨⟨_, rfl, value_ofAddress _⟩, ⟨_, rfl, value_ofUInt8 _⟩, ⟨_, rfl, value_ofUInt32 _⟩,
      ⟨hforwards, _, rfl, value_ofUInt32 _⟩, ⟨hforwards, _, rfl, value_ofUInt8 _⟩,
      ⟨rfl, _, rfl, value_ofUInt8 _⟩, iff_of_false nofun hdrop⟩
  | unclassifiedDownlinkTermination ue app counter teid qfi =>
    have hforwards : ActionId.forwardDownlinkUnclassified.ForwardsDownlink := Or.inr rfl
    have hclass : ActionId.forwardDownlinkUnclassified ≠ .forwardDownlink := by decide
    have hdrop : ActionId.forwardDownlinkUnclassified ≠ .dropDownlink := by decide
    exact ⟨⟨_, rfl, value_ofAddress _⟩, ⟨_, rfl, value_ofUInt8 _⟩, ⟨_, rfl, value_ofUInt32 _⟩,
      ⟨hforwards, _, rfl, value_ofUInt32 _⟩, ⟨hforwards, _, rfl, value_ofUInt8 _⟩,
      hclass, iff_of_false nofun hdrop⟩
  | tunnelPeer p =>
    exact ⟨⟨_, rfl, value_ofUInt8 _⟩, ⟨_, rfl, value_ofAddress _⟩, ⟨_, rfl, value_ofAddress _⟩,
      ⟨_, rfl, value_ofUInt16 _⟩⟩
  | application app hports =>
    -- here the match key says which optional fields there are, not the action
    obtain ⟨hnetwork, hrange, hprotocol⟩ := app.find?_filterMatches
    refine ⟨⟨_, rfl, value_ofUInt8 _⟩, rfl, ?_, ?_, ?_, rfl⟩
    · exact MatchKey.toldWhen_of_find? hnetwork
        fun p _ hfind => MatchKey.tellsPrefix_of_find? hfind
    · exact MatchKey.toldWhen_of_find? hrange
        fun r hr hfind => MatchKey.tellsPorts_of_find? hfind (hports r hr)
    · exact MatchKey.toldWhen_of_find? hprotocol
        fun n _ hfind => MatchKey.tellsMaskedNumber_of_find? hfind

/-- What is emitted for an entity decodes, in the table of its kind, to the entity without what is
lost. -/
theorem decode_entryIn (h : Emits e parts) {t : Pipeline.Table}
    (ht : Pipeline.tableFor? e.kind = some t) :
    (parts.entryIn t.id).decode = .ok e.normalized := by
  obtain ⟨hmem, hkind⟩ := Pipeline.tableFor?_eq_some_iff.mp ht
  refine TableEntry.decode_of_told hmem ?_ rfl rfl (h.mem_actions ht) (h.declares ht)
    (h.tells_normalized t.id)
  rw [hkind, Entity.kind_normalized]

end Emits

/-! ## The round trip -/

namespace Entity

variable {e : Entity} {r : EncodedEntry}

/-- The entry that programs an entity decodes to the entity without what is lost. -/
theorem decode_entry_of_encode (h : e.encode = .ok r) : r.entry.decode = .ok e.normalized := by
  obtain ⟨t, parts, ht, hparts, rfl⟩ := encode_eq_ok_iff.mp h
  exact hparts.decode_entryIn ht

/-- **What comes back is the entity without what is lost**, and so the entity itself exactly if
it loses nothing. -/
theorem decode_of_encode_eq_ok (h : e.encode = .ok r) :
    r.entry.decode = .ok e.normalized ∧ (r.entry.decode = .ok e ↔ e.normalized = e) := by
  have hback : r.entry.decode = .ok e.normalized := decode_entry_of_encode h
  refine ⟨hback, ?_⟩
  rw [hback, Except.ok.injEq]

/-- A termination that drops, and yet says where it would forward to, comes back without that. -/
theorem decode_of_encode_dropped_termination :
    ∃ r, (downlinkTermination ⟨⟨0x11000001⟩, 7, 4294967295, some 300, some 9, some 3, true⟩).encode
        = .ok r ∧
      r.entry.decode = .ok (downlinkTermination
        ⟨⟨0x11000001⟩, 7, 4294967295, none, none, none, true⟩) ∧
      r.entry.decode ≠ .ok (downlinkTermination
        ⟨⟨0x11000001⟩, 7, 4294967295, some 300, some 9, some 3, true⟩) := by
  have h := encode_eq_ok_iff.mpr
    ⟨_, _, rfl, .droppedDownlinkTermination ⟨0x11000001⟩ 7 4294967295 (some 300) (some 9) (some 3),
      rfl⟩
  obtain ⟨hback, hsame⟩ := decode_of_encode_eq_ok h
  exact ⟨_, h, hback, mt hsame.mp (by decide)⟩

end Entity

/-! ## The advisory -/

namespace DownlinkSession

/-- **A session that is to drop and buffer is programmed to buffer, with an advisory.** The session
that the advisory shows has kept its peer; the one that comes back has none. So the advisory shows
what is programmed exactly if there was no peer. -/
theorem encode_downgraded (s : DownlinkSession) (hdrops : s.drops = true)
    (hbuffers : s.buffers = true) :
    ∃ entry, (Entity.downlinkSession s).encode =
        .ok ⟨entry, some (.dropAndBufferDowngraded { s with drops := false })⟩ ∧
      entry.decode = .ok (.downlinkSession { s with tunnelPeer := none, drops := false }) ∧
      (entry.decode = .ok (.downlinkSession { s with drops := false }) ↔ s.tunnelPeer = none) := by
  obtain ⟨ue, peer, drops, buffers⟩ := s
  obtain rfl : drops = true := hdrops
  obtain rfl : buffers = true := hbuffers
  have h := Entity.encode_eq_ok_iff.mpr
    ⟨_, _, rfl, .bufferedDownlinkSession ue peer true, rfl⟩
  have hback := Entity.decode_entry_of_encode h
  refine ⟨_, h, hback, ?_⟩
  rw [hback, Except.ok.injEq]
  constructor
  · intro hsame
    cases hsame
    rfl
  · rintro rfl
    rfl

/-- A session with a peer has an advisory that shows the peer, and comes back without it. -/
theorem encode_downgraded_peer :
    ∃ entry, (Entity.downlinkSession ⟨⟨0x11000001⟩, some 255, true, true⟩).encode =
        .ok ⟨entry, some (.dropAndBufferDowngraded ⟨⟨0x11000001⟩, some 255, false, true⟩)⟩ ∧
      entry.decode = .ok (.downlinkSession ⟨⟨0x11000001⟩, none, false, true⟩) := by
  obtain ⟨entry, hencode, hback, -⟩ :=
    encode_downgraded ⟨⟨0x11000001⟩, some 255, true, true⟩ rfl rfl
  exact ⟨entry, hencode, hback⟩

/-- Not every advisory shows the session that comes back. -/
theorem not_forall_decode_eq_advisory :
    ¬∀ (s n : DownlinkSession) (entry : TableEntry), s.drops = true → s.buffers = true →
      (Entity.downlinkSession s).encode = .ok ⟨entry, some (.dropAndBufferDowngraded n)⟩ →
      entry.decode = .ok (.downlinkSession n) := by
  intro hall
  have h := Entity.encode_eq_ok_iff.mpr
    ⟨_, _, rfl, .bufferedDownlinkSession ⟨0x11000001⟩ (some 255) true, rfl⟩
  have hback := Entity.decode_entry_of_encode h
  have hshown := hall ⟨⟨0x11000001⟩, some 255, true, true⟩ _ _ rfl rfl h
  rw [hback] at hshown
  exact absurd (Except.ok.inj hshown) (by decide)

end DownlinkSession

end UserPlane
