import UserPlane.Proofs.Canonical
import Mathlib.Tactic.MkIffOfInductiveProp

/-! # What an entry depends on

Two entities are **alike** if they agree on every field that counts (`Entity.Alike`); which fields
do can depend on others, since a session that drops or buffers does not look at its peer, and a
termination that drops looks at neither its tunnel nor its class. Alike is the same as equal without
what is lost (`Entity.normalized_eq_iff`), so alike entities are programmed by one entry, and
**different entries tell entities apart exactly as far as they are not alike**. What makes entities
alike is never what keeps one of them from being programmed (`Entity.Alike.encodable`). -/

namespace UserPlane

/-! ## Entities that are alike -/

/-- Interfaces that agree but for their slices. -/
@[mk_iff]
structure Interface.Alike (i j : Interface) : Prop where
  network : i.network = j.network
  role : i.role = j.role

/-- Downlink sessions that agree but for what they do not get to. -/
@[mk_iff]
structure DownlinkSession.Alike (s t : DownlinkSession) : Prop where
  ueAddress : s.ueAddress = t.ueAddress
  buffers : s.buffers = t.buffers
  /-- Dropping counts, unless both buffer. -/
  drops : ¬(s.buffers = true ∧ t.buffers = true) → s.drops = t.drops
  /-- The peer counts, unless both drop or buffer. -/
  tunnelPeer : ¬((s.drops = true ∨ s.buffers = true) ∧ (t.drops = true ∨ t.buffers = true)) →
    s.tunnelPeer = t.tunnelPeer

/-- Uplink terminations that agree but for what they do not get to. -/
@[mk_iff]
structure UplinkTermination.Alike (t u : UplinkTermination) : Prop where
  ueAddress : t.ueAddress = u.ueAddress
  application : t.application = u.application
  counter : t.counter = u.counter
  drops : t.drops = u.drops
  /-- The class counts, unless both drop. -/
  trafficClass : ¬(t.drops = true ∧ u.drops = true) → t.trafficClass = u.trafficClass

/-- Downlink terminations that agree but for what they do not get to. -/
@[mk_iff]
structure DownlinkTermination.Alike (t u : DownlinkTermination) : Prop where
  ueAddress : t.ueAddress = u.ueAddress
  application : t.application = u.application
  counter : t.counter = u.counter
  drops : t.drops = u.drops
  /-- The endpoints count, unless both drop. -/
  teid : ¬(t.drops = true ∧ u.drops = true) → t.teid = u.teid
  /-- The flows count, unless both drop. -/
  qfi : ¬(t.drops = true ∧ u.drops = true) → t.qfi = u.qfi
  /-- The classes count, unless both drop. -/
  trafficClass : ¬(t.drops = true ∧ u.drops = true) → t.trafficClass = u.trafficClass

/-- Applications that agree but for their slices. -/
@[mk_iff]
structure Application.Alike (a b : Application) : Prop where
  id : a.id = b.id
  priority : a.priority = b.priority
  network : a.network = b.network
  ports : a.ports = b.ports
  protocol : a.protocol = b.protocol

/-- Entities of one kind that agree on every field that counts. -/
inductive Entity.Alike : Entity → Entity → Prop where
  | interface {i j : Interface} (h : i.Alike j) : Alike (interface i) (interface j)
  /-- Every field of an uplink session counts. -/
  | uplinkSession (s : UplinkSession) : Alike (uplinkSession s) (uplinkSession s)
  | downlinkSession {s t : DownlinkSession} (h : s.Alike t) :
    Alike (downlinkSession s) (downlinkSession t)
  | uplinkTermination {t u : UplinkTermination} (h : t.Alike u) :
    Alike (uplinkTermination t) (uplinkTermination u)
  | downlinkTermination {t u : DownlinkTermination} (h : t.Alike u) :
    Alike (downlinkTermination t) (downlinkTermination u)
  /-- Every field of a tunnel peer counts. -/
  | tunnelPeer (p : TunnelPeer) : Alike (tunnelPeer p) (tunnelPeer p)
  | application {a b : Application} (h : a.Alike b) : Alike (application a) (application b)
  /-- A counter is its cell. -/
  | counter (c : Counter) : Alike (counter c) (counter c)

/-! ## Alike without what is lost -/

/-- Interfaces are alike if they are the same in the slice that is programmed. -/
theorem Interface.normalized_eq_iff {i j : Interface} :
    i.normalized = j.normalized ↔ i.Alike j := by
  obtain ⟨network, role, slice⟩ := i
  obtain ⟨network', role', slice'⟩ := j
  simp [normalized, alike_iff]

/-- Downlink sessions are alike if the same is left of them. -/
theorem DownlinkSession.normalized_eq_iff {s t : DownlinkSession} :
    s.normalized = t.normalized ↔ s.Alike t := by
  obtain ⟨ue, peer, drops, buffers⟩ := s
  obtain ⟨ue', peer', drops', buffers'⟩ := t
  rw [alike_iff]
  -- what is left of the other fields depends on the flags of both
  cases buffers <;> cases buffers' <;> cases drops <;> cases drops' <;> simp [normalized]

/-- Uplink terminations are alike if the same is left of them. -/
theorem UplinkTermination.normalized_eq_iff {t u : UplinkTermination} :
    t.normalized = u.normalized ↔ t.Alike u := by
  obtain ⟨ue, app, counter, tc, drops⟩ := t
  obtain ⟨ue', app', counter', tc', drops'⟩ := u
  rw [alike_iff]
  cases drops <;> cases drops' <;> simp [normalized]

/-- Downlink terminations are alike if the same is left of them. -/
theorem DownlinkTermination.normalized_eq_iff {t u : DownlinkTermination} :
    t.normalized = u.normalized ↔ t.Alike u := by
  obtain ⟨ue, app, counter, teid, qfi, tc, drops⟩ := t
  obtain ⟨ue', app', counter', teid', qfi', tc', drops'⟩ := u
  rw [alike_iff]
  cases drops <;> cases drops' <;> simp [normalized]

/-- Applications are alike if they are the same in the slice that is programmed. -/
theorem Application.normalized_eq_iff {a b : Application} :
    a.normalized = b.normalized ↔ a.Alike b := by
  obtain ⟨id, priority, network, ports, protocol, slice⟩ := a
  obtain ⟨id', priority', network', ports', protocol', slice'⟩ := b
  simp [normalized, alike_iff]

namespace Entity

variable {e f : Entity}

/-- Alike entities are the same without what is lost. -/
theorem Alike.normalized_eq (h : e.Alike f) : e.normalized = f.normalized := by
  cases h with
  | interface h => exact congrArg Entity.interface (Interface.normalized_eq_iff.mpr h)
  | uplinkSession s => rfl
  | downlinkSession h =>
    exact congrArg Entity.downlinkSession (DownlinkSession.normalized_eq_iff.mpr h)
  | uplinkTermination h =>
    exact congrArg Entity.uplinkTermination (UplinkTermination.normalized_eq_iff.mpr h)
  | downlinkTermination h =>
    exact congrArg Entity.downlinkTermination (DownlinkTermination.normalized_eq_iff.mpr h)
  | tunnelPeer p => rfl
  | application h => exact congrArg Entity.application (Application.normalized_eq_iff.mpr h)
  | counter c => rfl

/-- Entities that are the same without what is lost are alike. -/
theorem alike_of_normalized_eq (h : e.normalized = f.normalized) : e.Alike f := by
  -- what is lost never changes the kind, so only entities of one kind are left
  cases e with
  | interface i =>
    cases f with
    | interface j => exact .interface (Interface.normalized_eq_iff.mp (interface.inj h))
    | _ => cases h
  | uplinkSession s =>
    cases f with
    | uplinkSession t =>
      obtain rfl := uplinkSession.inj h
      exact .uplinkSession s
    | _ => cases h
  | downlinkSession s =>
    cases f with
    | downlinkSession t =>
      exact .downlinkSession (DownlinkSession.normalized_eq_iff.mp (downlinkSession.inj h))
    | _ => cases h
  | uplinkTermination t =>
    cases f with
    | uplinkTermination u =>
      exact .uplinkTermination (UplinkTermination.normalized_eq_iff.mp (uplinkTermination.inj h))
    | _ => cases h
  | downlinkTermination t =>
    cases f with
    | downlinkTermination u =>
      exact .downlinkTermination
        (DownlinkTermination.normalized_eq_iff.mp (downlinkTermination.inj h))
    | _ => cases h
  | tunnelPeer p =>
    cases f with
    | tunnelPeer q =>
      obtain rfl := tunnelPeer.inj h
      exact .tunnelPeer p
    | _ => cases h
  | application a =>
    cases f with
    | application b => exact .application (Application.normalized_eq_iff.mp (application.inj h))
    | _ => cases h
  | counter c =>
    cases f with
    | counter d =>
      obtain rfl := counter.inj h
      exact .counter c
    | _ => cases h

/-- **Entities are alike exactly if they are the same without what is lost.** -/
theorem normalized_eq_iff : e.normalized = f.normalized ↔ e.Alike f :=
  ⟨alike_of_normalized_eq, Alike.normalized_eq⟩

/-- Without what is lost, an entity says as much as before. -/
theorem encodable_normalized_iff : e.normalized.Encodable ↔ e.Encodable := by
  cases e with
  | downlinkSession s =>
    obtain ⟨ue, peer, drops, buffers⟩ := s
    cases buffers <;> cases drops <;> simp [normalized, DownlinkSession.normalized, Encodable,
      DownlinkSession.Encodable]
  | downlinkTermination t =>
    obtain ⟨ue, app, counter, teid, qfi, tc, drops⟩ := t
    cases drops <;> simp [normalized, DownlinkTermination.normalized, Encodable,
      DownlinkTermination.Encodable]
  | _ => exact Iff.rfl

/-- What is alike to an entity that can be programmed can be programmed. -/
theorem Alike.encodable (h : e.Alike f) (he : e.Encodable) : f.Encodable := by
  rw [← encodable_normalized_iff, ← h.normalized_eq, encodable_normalized_iff]
  exact he

/-! ## One entry for what is alike -/

/-- Two entities are programmed by one entry exactly if they are the same without what is lost. -/
theorem entry_eq_iff_normalized_eq {r s : EncodedEntry} (he : e.encode = .ok r)
    (hf : f.encode = .ok s) : r.entry = s.entry ↔ e.normalized = f.normalized := by
  constructor
  · intro hsame
    have hback : r.entry.decode = .ok e.normalized := decode_entry_of_encode he
    rw [hsame, decode_entry_of_encode hf] at hback
    exact (Except.ok.inj hback).symm
  · intro hsame
    have hleft : e.normalized.encode = .ok ⟨r.entry, none⟩ := encode_normalized he
    rw [hsame, encode_normalized hf] at hleft
    exact (congrArg EncodedEntry.entry (Except.ok.inj hleft)).symm

/-- **Entries distinguish exactly what counts.** Two entities are programmed by one entry exactly if
they are alike; and whatever is alike to an entity is programmed, and by that entry, so that the
fields that do not count change nothing at all. -/
theorem entry_eq_iff_alike {r s : EncodedEntry} (he : e.encode = .ok r) (hf : f.encode = .ok s) :
    (r.entry = s.entry ↔ e.Alike f) ∧
      ∀ g, e.Alike g → ∃ q, g.encode = .ok q ∧ q.entry = r.entry := by
  constructor
  · rw [entry_eq_iff_normalized_eq he hf, normalized_eq_iff]
  · intro g hg
    have hencodable : g.Encodable := hg.encodable (exists_encode_iff_encodable.mp ⟨r, he⟩)
    obtain ⟨q, hq⟩ := exists_encode_of_encodable hencodable
    exact ⟨q, hq, (entry_eq_iff_normalized_eq hq he).mpr hg.normalized_eq.symm⟩

/-- A session that buffers has one entry, whether or not it is also to drop and whatever its peer;
one that only drops has another. -/
theorem entry_eq_of_buffering_sessions :
    ∃ r s q, (downlinkSession ⟨⟨0x11000001⟩, some 3, false, true⟩).encode = .ok r ∧
      (downlinkSession ⟨⟨0x11000001⟩, none, true, true⟩).encode = .ok s ∧
      (downlinkSession ⟨⟨0x11000001⟩, none, true, false⟩).encode = .ok q ∧
      r.entry = s.entry ∧ s.entry ≠ q.entry := by
  have hr := encode_eq_ok_iff.mpr
    ⟨_, _, rfl, .bufferedDownlinkSession ⟨0x11000001⟩ (some 3) false, rfl⟩
  have hs := encode_eq_ok_iff.mpr
    ⟨_, _, rfl, .bufferedDownlinkSession ⟨0x11000001⟩ none true, rfl⟩
  have hq := encode_eq_ok_iff.mpr ⟨_, _, rfl, .droppedDownlinkSession ⟨0x11000001⟩ none, rfl⟩
  refine ⟨_, _, _, hr, hs, hq, ?_, ?_⟩
  · exact (entry_eq_iff_alike hr hs).1.mpr (.downlinkSession ⟨rfl, rfl, by decide, by decide⟩)
  · intro hsame
    cases (entry_eq_iff_alike hs hq).1.mp hsame with
    | downlinkSession h => exact absurd h.buffers (by decide)

end Entity

end UserPlane
