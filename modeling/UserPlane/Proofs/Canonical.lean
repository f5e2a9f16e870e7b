import UserPlane.Proofs.Image

/-! # Re-encoding

To **re-encode** an entry is to decode it and to encode the entity that comes out
(`TableEntry.reencode`). This picks one entry among all that decode to the same entity: an entry
that is re-encoded still stands for its entity, and re-encoding it once more changes nothing. Two
entries are re-encoded alike exactly if they decode to the same entity; and the entries that are
left as they are, are **those that are emitted for some entity**, even for one that loses something
by it (`Entity.encode_normalized`). -/

namespace UserPlane

/-- The entry that programs what an entry decodes to. -/
def TableEntry.reencode (entry : TableEntry) : Except Unsupported TableEntry := do
  let e ← entry.decode
  let r ← e.encode
  return r.entry

/-! ## What is emitted without what is lost -/

/-- What is emitted does not depend on what is lost, but for the advisory. -/
theorem Emits.normalized {e : Entity} {parts : EntryParts} (h : Emits e parts) :
    Emits e.normalized { parts with advisory := none } := by
  cases h with
  | accessInterface network slice => exact .accessInterface network 0
  | coreInterface network slice => exact .coreInterface network 0
  | admittedUplinkSession destination teid => exact .admittedUplinkSession destination teid
  | droppedUplinkSession destination teid => exact .droppedUplinkSession destination teid
  | bufferedDownlinkSession ue peer drops =>
    -- the session no longer drops, so there is nothing left to advise about
    exact .bufferedDownlinkSession ue none false
  | droppedDownlinkSession ue peer => exact .droppedDownlinkSession ue none
  | forwardedDownlinkSession ue peer => exact .forwardedDownlinkSession ue peer
  | droppedUplinkTermination ue app counter tc =>
    exact .droppedUplinkTermination ue app counter none
  | classifiedUplinkTermination ue app counter tc =>
    exact .classifiedUplinkTermination ue app counter tc
  | unclassifiedUplinkTermination ue app counter =>
    exact .unclassifiedUplinkTermination ue app counter
  | droppedDownlinkTermination ue app counter teid qfi tc =>
    exact .droppedDownlinkTermination ue app counter none none none
  | classifiedDownlinkTermination ue app counter teid qfi tc =>
    exact .classifiedDownlinkTermination ue app counter teid qfi tc
  | unclassifiedDownlinkTermination ue app counter teid qfi =>
    exact .unclassifiedDownlinkTermination ue app counter teid qfi
  | tunnelPeer p => exact .tunnelPeer p
  | application app hports => exact .application app.normalized hports

namespace Entity

variable {e : Entity}

/-- An entity without what is lost is programmed by the same entry, and without an advisory. -/
theorem encode_normalized {r : EncodedEntry} (h : e.encode = .ok r) :
    e.normalized.encode = .ok ⟨r.entry, none⟩ := by
  obtain ⟨t, parts, ht, hparts, rfl⟩ := encode_eq_ok_iff.mp h
  refine encode_eq_ok_iff.mpr ⟨t, _, ?_, hparts.normalized, rfl⟩
  rw [kind_normalized]
  exact ht

/-- An unambiguous entity is programmed without an advisory, by an entry that decodes to it. -/
theorem exists_entry_of_unambiguous (h : e.Unambiguous) :
    ∃ entry : TableEntry, e.encode = .ok ⟨entry, none⟩ ∧ entry.decode = .ok e := by
  obtain ⟨hsame, r, hr⟩ := unambiguous_iff_normalized.mp h
  have hencode : e.normalized.encode = .ok ⟨r.entry, none⟩ := encode_normalized hr
  rw [hsame] at hencode
  exact ⟨r.entry, hencode, decode_entry_of_normalized hsame hr⟩

end Entity

namespace TableEntry

variable {entry entry' : TableEntry} {e e' : Entity}

/-! ## One entry for each entity -/

/-- An entry is re-encoded to another exactly if it decodes to an entity that is programmed by the
other one. -/
theorem reencode_eq_ok_iff :
    entry.reencode = .ok entry' ↔
      ∃ e r, entry.decode = .ok e ∧ e.encode = .ok r ∧ r.entry = entry' := by
  rw [reencode, bind_eq_ok_iff]
  simp only [bind_eq_ok_iff, pure_eq_ok_iff]
  constructor
  · rintro ⟨e, he, r, hr, rfl⟩
    exact ⟨e, r, he, hr, rfl⟩
  · rintro ⟨e, r, he, hr, rfl⟩
    exact ⟨e, he, r, hr, rfl⟩

/-- An entry that decodes is re-encoded to the entry that programs its entity. -/
theorem reencode_of_decode (h : entry.decode = .ok e) {advisory : Option Advisory}
    (hencode : e.encode = .ok ⟨entry', advisory⟩) : entry.reencode = .ok entry' :=
  reencode_eq_ok_iff.mpr ⟨e, _, h, hencode, rfl⟩

/-- Entries that decode to the same entity are re-encoded alike. -/
theorem reencode_eq_of_decode_eq (h : entry.decode = .ok e) (h' : entry'.decode = .ok e) :
    entry.reencode = entry'.reencode := by
  obtain ⟨c, hencode, -⟩ := Entity.exists_entry_of_unambiguous (unambiguous_of_decode h)
  rw [reencode_of_decode h hencode, reencode_of_decode h' hencode]

/-- An entry that is re-encoded stands for the same entity. -/
theorem decode_of_reencode (h : entry.decode = .ok e) (hsame : entry.reencode = .ok entry') :
    entry'.decode = .ok e := by
  obtain ⟨c, hencode, hback⟩ := Entity.exists_entry_of_unambiguous (unambiguous_of_decode h)
  rw [reencode_of_decode h hencode] at hsame
  rwa [← Except.ok.inj hsame]

/-- An entry stays as it is when it is re-encoded exactly if it is emitted for some entity. -/
theorem reencode_eq_self_iff :
    entry.reencode = .ok entry ↔
      ∃ (f : Entity) (r : EncodedEntry), f.encode = .ok r ∧ r.entry = entry := by
  constructor
  · intro h
    obtain ⟨e, r, -, hr, hentry⟩ := reencode_eq_ok_iff.mp h
    exact ⟨e, r, hr, hentry⟩
  · rintro ⟨e, r, hr, rfl⟩
    exact reencode_of_decode (Entity.decode_entry_of_encode hr) (Entity.encode_normalized hr)

/-- **Re-encoding picks one entry for each entity.** What an entry decodes to is programmed without
an advisory, by an entry that decodes to it again and stays as it is. Two entries that decode are
re-encoded alike exactly if they decode to the same entity, and one stays as it is exactly if it is
emitted for some entity. -/
theorem reencode_canonical (h : entry.decode = .ok e) (h' : entry'.decode = .ok e') :
    (∃ r, e.encode = .ok r ∧ r.advisory = none ∧ r.entry.decode = .ok e ∧
        entry.reencode = .ok r.entry ∧ r.entry.reencode = .ok r.entry) ∧
      (e = e' ↔ entry.reencode = entry'.reencode) ∧
      (entry.reencode = .ok entry ↔
        ∃ (f : Entity) (r : EncodedEntry), f.encode = .ok r ∧ r.entry = entry) := by
  obtain ⟨c, hencode, hback⟩ := Entity.exists_entry_of_unambiguous (unambiguous_of_decode h)
  have hcanonical : entry.reencode = .ok c := reencode_of_decode h hencode
  refine ⟨⟨_, hencode, rfl, hback, hcanonical, reencode_of_decode hback hencode⟩, ?_,
    reencode_eq_self_iff⟩
  constructor
  · rintro rfl
    exact reencode_eq_of_decode_eq h h'
  · intro hsame
    have hother : c.decode = .ok e' := decode_of_reencode h' (hsame ▸ hcanonical)
    exact Except.ok.inj (hback.symm.trans hother)

/-- An entry for a termination, out of order, with a field that is matched on twice and a parameter
that is not read. -/
def disorderedTermination : TableEntry where
  table := .uplinkTerminations
  matchKey := ⟨[⟨.application, .exact ⟨[0, 0, 7]⟩⟩, ⟨.ueAddress, .exact ⟨[17, 0, 0, 1]⟩⟩,
    ⟨.ueAddress, .exact ⟨[9]⟩⟩]⟩
  priority := some 3
  action := some ⟨.forwardUplinkUnclassified, [⟨.trafficClass, ⟨[1]⟩⟩, ⟨.counter, ⟨[5]⟩⟩]⟩

/-- The entry that is emitted for the termination of `disorderedTermination`. -/
def emittedTermination : TableEntry where
  table := .uplinkTerminations
  matchKey := ⟨[⟨.ueAddress, .exact ⟨[17, 0, 0, 1]⟩⟩, ⟨.application, .exact ⟨[7]⟩⟩]⟩
  priority := none
  action := some ⟨.forwardUplinkUnclassified, [⟨.counter, ⟨[0, 0, 0, 5]⟩⟩]⟩

/-- The disordered entry of a termination is re-encoded to the emitted one, and the emitted one to
itself. -/
theorem reencode_disorderedTermination :
    disorderedTermination.decode =
        .ok (.uplinkTermination ⟨⟨0x11000001⟩, 7, 5, none, false⟩) ∧
      emittedTermination.decode = .ok (.uplinkTermination ⟨⟨0x11000001⟩, 7, 5, none, false⟩) ∧
      emittedTermination.reencode = .ok emittedTermination ∧
      emittedTermination.reencode = disorderedTermination.reencode := by
  have h : disorderedTermination.decode =
      .ok (.uplinkTermination ⟨⟨0x11000001⟩, 7, 5, none, false⟩) := rfl
  have h' : emittedTermination.decode =
      .ok (.uplinkTermination ⟨⟨0x11000001⟩, 7, 5, none, false⟩) := rfl
  have hemitted : (Entity.uplinkTermination ⟨⟨0x11000001⟩, 7, 5, none, false⟩).encode =
      .ok ⟨emittedTermination, none⟩ :=
    Entity.encode_eq_ok_iff.mpr ⟨_, _, rfl, .unclassifiedUplinkTermination _ 7 5, rfl⟩
  obtain ⟨-, hsame, hself⟩ := reencode_canonical h' h
  exact ⟨h, h', hself.mpr ⟨_, _, hemitted, rfl⟩, hsame.mp rfl⟩

end TableEntry

end UserPlane
