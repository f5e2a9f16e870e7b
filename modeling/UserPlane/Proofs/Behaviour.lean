import UserPlane.Proofs.RoundTrip

/-! # What becomes of a downlink session

A downlink session can ask for more than one thing, and the pipeline does only one: it buffers if
the session asks for that, else it drops if the session asks for that, and else it forwards to the
session's peer (`DownlinkSession.AsksFor`). Only the session that neither buffers nor drops and has
no peer asks for nothing, and it is refused. Of what is passed over, the translation tells one part:
there is an advisory exactly if a session was to buffer and to drop
(`Emits.advisory_eq_some_iff`), and the session shown in it asks for the same without a conflict
(`Entity.advisory_isSome_iff`). -/

namespace UserPlane

/-! ## The one thing that is done -/

/-- The action that a downlink session asks for, buffering before dropping before forwarding. -/
inductive DownlinkSession.AsksFor (s : DownlinkSession) : Action → Prop where
  /-- A session that is to buffer asks for buffering, whatever else it is to do. -/
  | buffering (hbuffers : s.buffers = true) : s.AsksFor ⟨.bufferDownlinkSession, []⟩
  /-- A session that is to drop and not to buffer asks for dropping, with a peer or without. -/
  | dropping (hbuffers : s.buffers = false) (hdrops : s.drops = true) :
    s.AsksFor ⟨.dropDownlinkSession, []⟩
  /-- A session that is to do neither asks for forwarding to its peer. -/
  | forwarding {peer : UInt8} (hbuffers : s.buffers = false) (hdrops : s.drops = false)
      (hpeer : s.tunnelPeer = some peer) :
    s.AsksFor ⟨.setDownlinkSession, [⟨.tunnelPeer, .ofUInt8 peer⟩]⟩

namespace DownlinkSession

variable {s : DownlinkSession} {a : Action}

/-- A session asks for one thing only. -/
theorem AsksFor.unique {b : Action} (h : s.AsksFor a) (h' : s.AsksFor b) : b = a := by
  cases h with
  | buffering hbuffers =>
    cases h' with
    | buffering _ => rfl
    | dropping hkeeps _ => cases hbuffers.symm.trans hkeeps
    | forwarding hkeeps _ _ => cases hbuffers.symm.trans hkeeps
  | dropping hbuffers hdrops =>
    cases h' with
    | buffering hkeeps => cases hbuffers.symm.trans hkeeps
    | dropping _ _ => rfl
    | forwarding _ hadmits _ => cases hdrops.symm.trans hadmits
  | forwarding hbuffers hdrops hpeer =>
    cases h' with
    | buffering hkeeps => cases hbuffers.symm.trans hkeeps
    | dropping _ hadmits => cases hdrops.symm.trans hadmits
    | forwarding _ _ hother =>
      cases hpeer.symm.trans hother
      rfl

/-- What is emitted for a session does what the session asks for. -/
theorem asksFor_of_emits {parts : EntryParts} (h : Emits (.downlinkSession s) parts) :
    s.AsksFor parts.action := by
  cases h with
  | bufferedDownlinkSession ue peer drops => exact .buffering rfl
  | droppedDownlinkSession ue peer => exact .dropping rfl rfl
  | forwardedDownlinkSession ue peer => exact .forwarding rfl rfl rfl

/-- There is a rule for whatever a session asks for. -/
theorem AsksFor.exists_emits (h : s.AsksFor a) :
    ∃ parts, Emits (.downlinkSession s) parts ∧ parts.action = a := by
  obtain ⟨ue, peer, drops, buffers⟩ := s
  cases h with
  | buffering hbuffers =>
    obtain rfl : buffers = true := hbuffers
    exact ⟨_, .bufferedDownlinkSession ue peer drops, rfl⟩
  | dropping hbuffers hdrops =>
    obtain rfl : buffers = false := hbuffers
    obtain rfl : drops = true := hdrops
    exact ⟨_, .droppedDownlinkSession ue peer, rfl⟩
  | @forwarding p hbuffers hdrops hpeer =>
    obtain rfl : buffers = false := hbuffers
    obtain rfl : drops = false := hdrops
    obtain rfl : peer = some p := hpeer
    exact ⟨_, .forwardedDownlinkSession ue p, rfl⟩

/-- **A session is programmed by the action that it asks for.** -/
theorem exists_encode_action_iff :
    (∃ r, (Entity.downlinkSession s).encode = .ok r ∧ r.entry.action = some a) ↔ s.AsksFor a := by
  constructor
  · rintro ⟨r, hr, haction⟩
    obtain ⟨t, parts, -, hparts, rfl⟩ := Entity.encode_eq_ok_iff.mp hr
    rw [← Option.some.inj haction]
    exact asksFor_of_emits hparts
  · intro h
    obtain ⟨parts, hparts, rfl⟩ := h.exists_emits
    exact ⟨_, Entity.encode_eq_ok_iff.mpr ⟨_, parts, rfl, hparts, rfl⟩, rfl⟩

/-- A session that asks for nothing is refused. -/
theorem exists_asksFor_or_refused (s : DownlinkSession) :
    (∃ a, s.AsksFor a) ∨
      (s.buffers = false ∧ s.drops = false ∧ s.tunnelPeer = none ∧
        (Entity.downlinkSession s).encode =
          .error (.entity (.downlinkSession s) .missingTunnelPeer)) := by
  obtain ⟨ue, peer, drops, buffers⟩ := s
  cases buffers with
  | true => exact Or.inl ⟨_, .buffering rfl⟩
  | false =>
    cases drops with
    | true => exact Or.inl ⟨_, .dropping rfl rfl⟩
    | false =>
      cases peer with
      | some peer => exact Or.inl ⟨_, .forwarding rfl rfl rfl⟩
      | none => exact Or.inr ⟨rfl, rfl, rfl, rfl⟩

end DownlinkSession

/-! ## The advisory -/

/-- **An advisory tells of a downlink session that was to buffer and to drop**, and shows it without
the dropping. -/
theorem Emits.advisory_eq_some_iff {e : Entity} {parts : EntryParts} (h : Emits e parts)
    {n : DownlinkSession} :
    parts.advisory = some (.dropAndBufferDowngraded n) ↔
      ∃ s, e = .downlinkSession s ∧ s.drops = true ∧ s.buffers = true ∧
        n = { s with drops := false } := by
  cases h with
  | bufferedDownlinkSession ue peer drops =>
    cases drops with
    | false =>
      refine iff_of_false nofun ?_
      rintro ⟨s, hs, hdrops, -⟩
      cases hs
      cases hdrops
    | true =>
      constructor
      · intro hadvisory
        cases hadvisory
        exact ⟨_, rfl, rfl, rfl, rfl⟩
      · rintro ⟨s, hs, -, -, rfl⟩
        cases hs
        rfl
  | droppedDownlinkSession ue peer =>
    refine iff_of_false nofun ?_
    rintro ⟨s, hs, -, hbuffers, -⟩
    cases hs
    cases hbuffers
  | forwardedDownlinkSession ue peer =>
    refine iff_of_false nofun ?_
    rintro ⟨s, hs, -, hbuffers, -⟩
    cases hs
    cases hbuffers
  | _ =>
    -- no rule for another kind has an advisory
    refine iff_of_false nofun ?_
    rintro ⟨s, hs, -⟩
    cases hs

namespace Entity

variable {e : Entity} {r : EncodedEntry}

/-- Only a session that was to buffer and to drop has an advisory. -/
theorem advisory_eq_some_iff_of_encode (h : e.encode = .ok r) {n : DownlinkSession} :
    r.advisory = some (.dropAndBufferDowngraded n) ↔
      ∃ s, e = .downlinkSession s ∧ s.drops = true ∧ s.buffers = true ∧
        n = { s with drops := false } := by
  obtain ⟨t, parts, -, hparts, rfl⟩ := encode_eq_ok_iff.mp h
  exact hparts.advisory_eq_some_iff

/-- The session that an advisory shows is programmed by the same entry, without an advisory. -/
theorem encode_without_drops {s : DownlinkSession} (hbuffers : s.buffers = true)
    (h : (downlinkSession s).encode = .ok r) :
    (downlinkSession { s with drops := false }).encode = .ok ⟨r.entry, none⟩ ∧
      r.entry.action = some ⟨.bufferDownlinkSession, []⟩ := by
  obtain ⟨ue, peer, drops, buffers⟩ := s
  obtain rfl : buffers = true := hbuffers
  obtain ⟨t, parts, ht, hparts, rfl⟩ := encode_eq_ok_iff.mp h
  cases hparts with
  | bufferedDownlinkSession ue peer drops =>
    exact ⟨encode_eq_ok_iff.mpr ⟨t, _, ht, .bufferedDownlinkSession ue peer false, rfl⟩, rfl⟩

/-- **When a downlink session is downgraded, and to what.** There is an advisory exactly on a
downlink session that was to buffer and to drop, and the session that it shows differs from that one
in not dropping only; it is programmed by the same entry, without an advisory, and the entry
buffers, has no parameters and decodes to a session that buffers and does not drop. In general, the
action of a downlink session is the one that the session asks for, buffering before dropping before
forwarding to the peer, and each session has exactly one, unless it is to be forwarded and has no
peer, and is refused. -/
theorem advisory_isSome_iff :
    (∀ (e : Entity) (r : EncodedEntry), e.encode = .ok r →
      (r.advisory.isSome = true ↔
        ∃ s, e = downlinkSession s ∧ s.drops = true ∧ s.buffers = true) ∧
      ∀ n, r.advisory = some (.dropAndBufferDowngraded n) →
        (∃ s, e = downlinkSession s ∧ n = { s with drops := false }) ∧
        (downlinkSession n).encode = .ok ⟨r.entry, none⟩ ∧
        r.entry.action = some ⟨.bufferDownlinkSession, []⟩ ∧
        ∃ s, r.entry.decode = .ok (downlinkSession s) ∧ s.buffers = true ∧ s.drops = false) ∧
      (∀ (s : DownlinkSession) (a : Action),
        (∃ r, (downlinkSession s).encode = .ok r ∧ r.entry.action = some a) ↔ s.AsksFor a) ∧
      ∀ s : DownlinkSession,
        (∃ a, s.AsksFor a ∧ ∀ b, s.AsksFor b → b = a) ∨
          (s.buffers = false ∧ s.drops = false ∧ s.tunnelPeer = none ∧
            (downlinkSession s).encode =
              .error (.entity (downlinkSession s) .missingTunnelPeer)) := by
  refine ⟨?_, fun s a => DownlinkSession.exists_encode_action_iff, ?_⟩
  · intro e r h
    constructor
    · rw [Option.isSome_iff_exists]
      constructor
      · rintro ⟨⟨n⟩, hn⟩
        obtain ⟨s, hs, hdrops, hbuffers, -⟩ := (advisory_eq_some_iff_of_encode h).mp hn
        exact ⟨s, hs, hdrops, hbuffers⟩
      · rintro ⟨s, hs, hdrops, hbuffers⟩
        exact ⟨_, (advisory_eq_some_iff_of_encode h).mpr ⟨s, hs, hdrops, hbuffers, rfl⟩⟩
    · intro n hn
      obtain ⟨s, rfl, -, hbuffers, rfl⟩ := (advisory_eq_some_iff_of_encode h).mp hn
      obtain ⟨hsame, haction⟩ := encode_without_drops hbuffers h
      refine ⟨⟨s, rfl, rfl⟩, hsame, haction, s.normalized, decode_entry_of_encode h, ?_⟩
      rw [DownlinkSession.normalized, if_pos hbuffers]
      exact ⟨hbuffers, rfl⟩
  · intro s
    refine s.exists_asksFor_or_refused.imp_left ?_
    rintro ⟨a, ha⟩
    exact ⟨a, ha, fun b hb => ha.unique hb⟩

/-- A session that is to buffer, to drop and to go to a peer buffers, and the advisory shows it with
its peer. -/
theorem advisory_isSome_iff_peer :
    ∃ r, (downlinkSession ⟨⟨0x11000001⟩, some 255, true, true⟩).encode = .ok r ∧
      r.advisory.isSome = true ∧
      (downlinkSession ⟨⟨0x11000001⟩, some 255, false, true⟩).encode = .ok ⟨r.entry, none⟩ ∧
      DownlinkSession.AsksFor ⟨⟨0x11000001⟩, some 255, true, true⟩
        ⟨.bufferDownlinkSession, []⟩ := by
  have h := encode_eq_ok_iff.mpr
    ⟨_, _, rfl, .bufferedDownlinkSession ⟨0x11000001⟩ (some 255) true, rfl⟩
  obtain ⟨hadvisory, hactions, -⟩ := advisory_isSome_iff
  obtain ⟨hiff, hshown⟩ := hadvisory _ _ h
  obtain ⟨-, hsame, haction, -⟩ := hshown _ rfl
  exact ⟨_, h, hiff.mpr ⟨_, rfl, rfl, rfl⟩, hsame, (hactions _ _).mp ⟨_, h, haction⟩⟩

end Entity

end UserPlane
