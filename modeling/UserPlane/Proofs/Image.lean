import UserPlane.Proofs.RoundTrip
import UserPlane.Proofs.Encodability

/-! # What entries decode to

Fields of an entity can contradict each other: a session may say that it drops and that it buffers,
and a termination that forwards may lack its tunnel. An entity is **unambiguous** if its fields say
one thing only and one that the pipeline can do. What an entry decodes to is always unambiguous
(`TableEntry.unambiguous_of_decode`), since the flags are read off a single action; and every
unambiguous entity is programmed by an entry and comes back from it unchanged
(`Entity.unambiguous_iff_normalized`). -/

namespace UserPlane

/-! ## Unambiguous entities -/

/-- An interface on a side that the pipeline tells apart, in the slice that it programs. -/
def Interface.Unambiguous (i : Interface) : Prop :=
  (i.role = .access ∨ i.role = .core) ∧ i.slice = 0

instance (i : Interface) : Decidable i.Unambiguous :=
  inferInstanceAs (Decidable (_ ∧ _))

/-- How many of the three things a downlink session asks for: to drop, to buffer and to forward to
a peer. -/
def DownlinkSession.behaviours (s : DownlinkSession) : Nat :=
  s.drops.toNat + s.buffers.toNat + s.tunnelPeer.isSome.toNat

/-- A downlink session that asks for exactly one thing. -/
def DownlinkSession.Unambiguous (s : DownlinkSession) : Prop := s.behaviours = 1

instance (s : DownlinkSession) : Decidable s.Unambiguous :=
  inferInstanceAs (Decidable (_ = _))

/-- An uplink termination that has no class if it drops. -/
def UplinkTermination.Unambiguous (t : UplinkTermination) : Prop :=
  t.drops = true → t.trafficClass = none

instance (t : UplinkTermination) : Decidable t.Unambiguous :=
  inferInstanceAs (Decidable (_ → _))

/-- A downlink termination that either drops, and has neither tunnel nor class, or has a whole
tunnel to forward through. -/
def DownlinkTermination.Unambiguous (t : DownlinkTermination) : Prop :=
  (t.drops = true → t.teid = none ∧ t.qfi = none ∧ t.trafficClass = none) ∧
    (t.drops = false → t.teid.isSome = true ∧ t.qfi.isSome = true)

instance (t : DownlinkTermination) : Decidable t.Unambiguous :=
  inferInstanceAs (Decidable (_ ∧ _))

/-- An application in the slice that the pipeline programs, whose ports, if it is about some, hold
one. -/
def Application.Unambiguous (app : Application) : Prop :=
  app.slice = 0 ∧ ∀ r ∈ app.ports, r.low ≤ r.high

instance (app : Application) : Decidable app.Unambiguous :=
  inferInstanceAs (Decidable (_ ∧ _))

/-- An entity whose fields say one thing that the pipeline can do. -/
def Entity.Unambiguous : Entity → Prop
  | interface i => i.Unambiguous
  | uplinkSession _ => True
  | downlinkSession s => s.Unambiguous
  | uplinkTermination t => t.Unambiguous
  | downlinkTermination t => t.Unambiguous
  | tunnelPeer _ => True
  | application app => app.Unambiguous
  | counter _ => False

instance : DecidablePred Entity.Unambiguous
  | .interface i => inferInstanceAs (Decidable i.Unambiguous)
  | .uplinkSession _ => inferInstanceAs (Decidable True)
  | .downlinkSession s => inferInstanceAs (Decidable s.Unambiguous)
  | .uplinkTermination t => inferInstanceAs (Decidable t.Unambiguous)
  | .downlinkTermination t => inferInstanceAs (Decidable t.Unambiguous)
  | .tunnelPeer _ => inferInstanceAs (Decidable True)
  | .application app => inferInstanceAs (Decidable app.Unambiguous)
  | .counter _ => inferInstanceAs (Decidable False)

/-! ## What is told is unambiguous -/

section Told

variable {key : MatchKey} {a : Action}

/-- The side that is told is the access or the core side. -/
theorem Interface.ToldBy.unambiguous {i : Interface} (h : i.ToldBy key a) : i.Unambiguous :=
  ⟨h.side.imp And.left And.left, h.slice⟩

/-- An action asks a session for one thing. -/
theorem DownlinkSession.ToldBy.unambiguous {s : DownlinkSession} (h : s.ToldBy key a)
    (ha : a.id ∈ Pipeline.downlinkSessions.actions) : s.Unambiguous := by
  rcases h.behaviour ha with ⟨-, peer, -, hs⟩ | ⟨-, hs⟩ | ⟨-, hs⟩
  · rw [hs]
    rfl
  · rw [hs]
    rfl
  · rw [hs]
    rfl

/-- An action that drops has no class to send in. -/
theorem UplinkTermination.ToldBy.unambiguous {t : UplinkTermination} (h : t.ToldBy key a) :
    t.Unambiguous := by
  intro hdrops
  have hid : a.id = .dropUplink := h.drops.mp hdrops
  exact h.trafficClass.eq_none (by rw [hid]; decide)

/-- An action that drops has no tunnel, and one that does not has a whole one. -/
theorem DownlinkTermination.ToldBy.unambiguous {t : DownlinkTermination} (h : t.ToldBy key a)
    (ha : a.id ∈ Pipeline.downlinkTerminations.actions) : t.Unambiguous := by
  constructor
  · intro hdrops
    have hid : a.id = .dropDownlink := h.drops.mp hdrops
    have hstays : ¬a.id.ForwardsDownlink := ActionId.not_forwardsDownlink_of_drop hid
    exact ⟨h.teid.eq_none hstays, h.qfi.eq_none hstays,
      h.trafficClass.eq_none (by rw [hid]; decide)⟩
  · intro hdrops
    -- the table takes three actions, and the one that is left out here drops
    have hforwards : a.id.ForwardsDownlink := by
      rcases Pipeline.mem_actions_downlinkTerminations.mp ha with hid | hid | hid
      · exact Or.inl hid
      · exact Or.inr hid
      · rw [h.drops.mpr hid] at hdrops
        cases hdrops
    obtain ⟨teid, hteid, -⟩ := h.teid.exists_some hforwards
    obtain ⟨qfi, hqfi, -⟩ := h.qfi.exists_some hforwards
    rw [hteid, hqfi]
    exact ⟨rfl, rfl⟩

/-- The ports that are told hold one. -/
theorem Application.ToldBy.unambiguous {entry : TableEntry} {app : Application}
    (h : app.ToldBy entry a) : app.Unambiguous :=
  ⟨h.slice, h.low_le_high⟩

end Told

/-- **What an entry decodes to is unambiguous.** -/
theorem TableEntry.unambiguous_of_decode {entry : TableEntry} {e : Entity}
    (h : entry.decode = .ok e) : e.Unambiguous := by
  obtain ⟨t, ht, a, hkind, -, -, ha, -, htold⟩ := told_of_decode h
  have htable := Pipeline.tableFor?_eq_some_iff.mpr ⟨ht, hkind⟩
  cases e with
  | interface i => exact Interface.ToldBy.unambiguous htold
  | uplinkSession s => trivial
  | downlinkSession s =>
    cases htable
    exact DownlinkSession.ToldBy.unambiguous htold ha
  | uplinkTermination t => exact UplinkTermination.ToldBy.unambiguous htold
  | downlinkTermination t =>
    cases htable
    exact DownlinkTermination.ToldBy.unambiguous htold ha
  | tunnelPeer p => trivial
  | application app => exact Application.ToldBy.unambiguous htold
  | counter c => cases htable

/-! ## What is unambiguous comes back -/

namespace Entity

/-- What is unambiguous says enough to be programmed. -/
theorem encodable_of_unambiguous {e : Entity} (h : e.Unambiguous) : e.Encodable := by
  cases e with
  | interface i => exact h.1
  | uplinkSession s => trivial
  | downlinkSession s =>
    by_contra hnot
    obtain ⟨hdrops, hrest⟩ := not_or.mp hnot
    obtain ⟨hbuffers, hpeer⟩ := not_or.mp hrest
    have hnone : s.behaviours = 0 := by
      rw [DownlinkSession.behaviours, Bool.eq_false_iff.mpr hdrops,
        Bool.eq_false_iff.mpr hbuffers, Bool.eq_false_iff.mpr hpeer]
      rfl
    have hone : s.behaviours = 1 := h
    omega
  | uplinkTermination t => trivial
  | downlinkTermination t =>
    cases hdrops : t.drops with
    | true => exact Or.inl hdrops
    | false => exact Or.inr (h.2 hdrops)
  | tunnelPeer p => trivial
  | application app => exact h.2
  | counter c => exact h.elim

/-- An unambiguous entity loses nothing. -/
theorem normalized_of_unambiguous {e : Entity} (h : e.Unambiguous) : e.normalized = e := by
  cases e with
  | interface i =>
    obtain ⟨network, role, slice⟩ := i
    obtain ⟨-, rfl⟩ := h
    rfl
  | uplinkSession s => rfl
  | downlinkSession s =>
    -- five of the eight combinations ask for none or for several things
    obtain ⟨ue, peer, drops, buffers⟩ := s
    cases peer <;> cases drops <;> cases buffers <;> first | rfl | cases h
  | uplinkTermination t =>
    obtain ⟨ue, app, counter, tc, drops⟩ := t
    cases drops with
    | false => rfl
    | true =>
      obtain rfl : tc = none := h rfl
      rfl
  | downlinkTermination t =>
    obtain ⟨ue, app, counter, teid, qfi, tc, drops⟩ := t
    cases drops with
    | false => rfl
    | true =>
      obtain ⟨hteid, hqfi, htc⟩ := h.1 rfl
      obtain rfl : teid = none := hteid
      obtain rfl : qfi = none := hqfi
      obtain rfl : tc = none := htc
      rfl
  | tunnelPeer p => rfl
  | application app =>
    obtain ⟨id, priority, network, ports, protocol, slice⟩ := app
    obtain ⟨rfl, -⟩ := h
    rfl
  | counter c => rfl

/-- An entity that loses nothing comes back as it was. -/
theorem decode_entry_of_normalized {e : Entity} {r : EncodedEntry} (hsame : e.normalized = e)
    (h : e.encode = .ok r) : r.entry.decode = .ok e := by
  have hback : r.entry.decode = .ok e.normalized := decode_entry_of_encode h
  rwa [hsame] at hback

/-- **The unambiguous entities are those that are programmed by an entry and lose nothing by
it.** -/
theorem unambiguous_iff_normalized {e : Entity} :
    e.Unambiguous ↔ e.normalized = e ∧ ∃ r, e.encode = .ok r := by
  constructor
  · intro h
    exact ⟨normalized_of_unambiguous h, exists_encode_of_encodable (encodable_of_unambiguous h)⟩
  · rintro ⟨hsame, r, hr⟩
    exact TableEntry.unambiguous_of_decode (decode_entry_of_normalized hsame hr)

example : ¬(downlinkSession ⟨⟨0x11000001⟩, some 255, true, true⟩).Unambiguous := by decide

/-- **What entries decode to.** There is an entry that decodes to an entity exactly if the entity
is unambiguous; so no entry decodes to a session whose flags contradict each other, or to an entity
that forwards without saying where to. -/
theorem exists_decode_iff_unambiguous (e : Entity) :
    (∃ entry : TableEntry, entry.decode = .ok e) ↔ e.Unambiguous := by
  constructor
  · rintro ⟨entry, h⟩
    exact TableEntry.unambiguous_of_decode h
  · intro h
    obtain ⟨hsame, r, hr⟩ := unambiguous_iff_normalized.mp h
    exact ⟨r.entry, decode_entry_of_normalized hsame hr⟩

end Entity

end UserPlane
