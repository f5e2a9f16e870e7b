import UserPlane.Proofs.Declaration
import UserPlane.Proofs.Reading
import UserPlane.Codec

/-! # What is emitted

The entries that entities are programmed by, written out: **`Emits`** has one rule for each action
of the pipeline (and one for each side of an interface), which says for which entities the action is
chosen and what the match key, the parameters and the priority then are. The translation gives
parts exactly if there is a rule (`Encoding.partsOf_eq_ok_iff`), and none of its own checks ever
fails on them: the field matches are fields of the table, in the order of the declaration
(`Emits.sublist_fields`), and so keep to it. What is left is to put the parts into the table of the
kind (`Entity.encode_eq_ok_iff`). -/

namespace UserPlane

/-- The field matches of an application's filter: those parts that are there, in order. -/
def Application.filterMatches (app : Application) : List FieldMatch :=
  app.network.toList.map (.ofPrefix .applicationAddress)
    ++ app.ports.toList.map (.ofPorts .applicationPort)
    ++ app.protocol.toList.map (.ofMaskedByte .applicationProtocol)

/-- A filter matches on each of the addresses, the ports and the protocol if it has them. -/
theorem Application.find?_filterMatches (app : Application) :
    (MatchKey.mk app.filterMatches).find? .applicationAddress =
        app.network.map (.ofPrefix .applicationAddress) ∧
      (MatchKey.mk app.filterMatches).find? .applicationPort =
        app.ports.map (.ofPorts .applicationPort) ∧
      (MatchKey.mk app.filterMatches).find? .applicationProtocol =
        app.protocol.map (.ofMaskedByte .applicationProtocol) := by
  obtain ⟨id, priority, network, ports, protocol, slice⟩ := app
  cases network <;> cases ports <;> cases protocol <;> exact ⟨rfl, rfl, rfl⟩

/-- The parts of the entry that programs an entity, one rule an action. -/
inductive Emits : Entity → EntryParts → Prop where
  /-- Traffic from the access side is uplink traffic. -/
  | accessInterface (network : Prefix) (slice : UInt8) :
    Emits (.interface ⟨network, .access, slice⟩)
      { matchKey := ⟨[.ofPrefix .destinationPrefix network]⟩,
        action := ⟨.setSourceInterface, [⟨.sourceInterface, .ofUInt8 1⟩,
          ⟨.direction, .ofUInt8 1⟩, ⟨.slice, .ofUInt8 0⟩]⟩ }
  /-- Traffic from the core side is downlink traffic. -/
  | coreInterface (network : Prefix) (slice : UInt8) :
    Emits (.interface ⟨network, .core, slice⟩)
      { matchKey := ⟨[.ofPrefix .destinationPrefix network]⟩,
        action := ⟨.setSourceInterface, [⟨.sourceInterface, .ofUInt8 2⟩,
          ⟨.direction, .ofUInt8 2⟩, ⟨.slice, .ofUInt8 0⟩]⟩ }
  /-- An uplink session that does not drop. -/
  | admittedUplinkSession (destination : Address) (teid : UInt32) :
    Emits (.uplinkSession ⟨destination, teid, false⟩)
      { matchKey := ⟨[.ofAddress .n3Address destination, .ofWord .teid teid]⟩,
        action := ⟨.setUplinkSession, []⟩ }
  /-- An uplink session that drops. -/
  | droppedUplinkSession (destination : Address) (teid : UInt32) :
    Emits (.uplinkSession ⟨destination, teid, true⟩)
      { matchKey := ⟨[.ofAddress .n3Address destination, .ofWord .teid teid]⟩,
        action := ⟨.dropUplinkSession, []⟩ }
  /-- A downlink session that buffers, whatever else it asks for. -/
  | bufferedDownlinkSession (ue : Address) (peer : Option UInt8) (drops : Bool) :
    Emits (.downlinkSession ⟨ue, peer, drops, true⟩)
      { matchKey := ⟨[.ofAddress .ueAddress ue]⟩,
        action := ⟨.bufferDownlinkSession, []⟩,
        advisory := Encoding.downlinkAdvisory ⟨ue, peer, drops, true⟩ }
  /-- A downlink session that drops and does not buffer. -/
  | droppedDownlinkSession (ue : Address) (peer : Option UInt8) :
    Emits (.downlinkSession ⟨ue, peer, true, false⟩)
      { matchKey := ⟨[.ofAddress .ueAddress ue]⟩,
        action := ⟨.dropDownlinkSession, []⟩ }
  /-- A downlink session that neither buffers nor drops goes to its peer. -/
  | forwardedDownlinkSession (ue : Address) (peer : UInt8) :
    Emits (.downlinkSession ⟨ue, some peer, false, false⟩)
      { matchKey := ⟨[.ofAddress .ueAddress ue]⟩,
        action := ⟨.setDownlinkSession, [⟨.tunnelPeer, .ofUInt8 peer⟩]⟩ }
  /-- An uplink termination that drops. -/
  | droppedUplinkTermination (ue : Address) (app : UInt8) (counter : UInt32)
      (tc : Option UInt8) :
    Emits (.uplinkTermination ⟨ue, app, counter, tc, true⟩)
      { matchKey := ⟨[.ofAddress .ueAddress ue, .ofByte .application app]⟩,
        action := ⟨.dropUplink, [⟨.counter, .ofUInt32 counter⟩]⟩ }
  /-- An uplink termination that forwards in a traffic class. -/
  | classifiedUplinkTermination (ue : Address) (app : UInt8) (counter : UInt32) (tc : UInt8) :
    Emits (.uplinkTermination ⟨ue, app, counter, some tc, false⟩)
      { matchKey := ⟨[.ofAddress .ueAddress ue, .ofByte .application app]⟩,
        action := ⟨.forwardUplink,
          [⟨.counter, .ofUInt32 counter⟩, ⟨.trafficClass, .ofUInt8 tc⟩]⟩ }
  /-- An uplink termination that forwards without one. -/
  | unclassifiedUplinkTermination (ue : Address) (app : UInt8) (counter : UInt32) :
    Emits (.uplinkTermination ⟨ue, app, counter, none, false⟩)
      { matchKey := ⟨[.ofAddress .ueAddress ue, .ofByte .application app]⟩,
        action := ⟨.forwardUplinkUnclassified, [⟨.counter, .ofUInt32 counter⟩]⟩ }
  /-- A downlink termination that drops. -/
  | droppedDownlinkTermination (ue : Address) (app : UInt8) (counter : UInt32)
      (teid : Option UInt32) (qfi tc : Option UInt8) :
    Emits (.downlinkTermination ⟨ue, app, counter, teid, qfi, tc, true⟩)
      { matchKey := ⟨[.ofAddress .ueAddress ue, .ofByte .application app]⟩,
        action := ⟨.dropDownlink, [⟨.counter, .ofUInt32 counter⟩]⟩ }
  /-- A downlink termination that forwards in a traffic class. -/
  | classifiedDownlinkTermination (ue : Address) (app : UInt8) (counter teid : UInt32)
      (qfi tc : UInt8) :
    Emits (.downlinkTermination ⟨ue, app, counter, some teid, some qfi, some tc, false⟩)
      { matchKey := ⟨[.ofAddress .ueAddress ue, .ofByte .application app]⟩,
        action := ⟨.forwardDownlink, [⟨.counter, .ofUInt32 counter⟩, ⟨.teid, .ofUInt32 teid⟩,
          ⟨.qfi, .ofUInt8 qfi⟩, ⟨.trafficClass, .ofUInt8 tc⟩]⟩ }
  /-- A downlink termination that forwards without one. -/
  | unclassifiedDownlinkTermination (ue : Address) (app : UInt8) (counter teid : UInt32)
      (qfi : UInt8) :
    Emits (.downlinkTermination ⟨ue, app, counter, some teid, some qfi, none, false⟩)
      { matchKey := ⟨[.ofAddress .ueAddress ue, .ofByte .application app]⟩,
        action := ⟨.forwardDownlinkUnclassified, [⟨.counter, .ofUInt32 counter⟩,
          ⟨.teid, .ofUInt32 teid⟩, ⟨.qfi, .ofUInt8 qfi⟩]⟩ }
  /-- A tunnel peer. -/
  | tunnelPeer (p : TunnelPeer) :
    Emits (.tunnelPeer p)
      { matchKey := ⟨[.ofByte .tunnelPeer p.id]⟩,
        action := ⟨.loadTunnel, [⟨.source, .ofAddress p.source⟩,
          ⟨.destination, .ofAddress p.destination⟩, ⟨.sourcePort, .ofUInt16 p.sourcePort⟩]⟩ }
  /-- An application whose ports, if it is about some, hold one. -/
  | application (app : Application) (hports : ∀ r, app.ports = some r → r.low ≤ r.high) :
    Emits (.application app)
      { matchKey := ⟨app.filterMatches⟩,
        action := ⟨.setApplication, [⟨.application, .ofUInt8 app.id⟩]⟩,
        priority := some app.priority }

/-! ## The translation follows the rules -/

namespace Encoding

/-- The matches of a filter are on different fields, so none replaces another. -/
theorem ofMatches_filterMatches (app : Application) :
    MatchKey.ofMatches app.filterMatches = ⟨app.filterMatches⟩ := by
  obtain ⟨id, priority, network, ports, protocol, slice⟩ := app
  cases network <;> cases ports <;> cases protocol <;> rfl

/-- Ports are matched on exactly if they hold one. -/
theorem portMatch_eq_ok_iff {ports : Option PortRange} {ms : List FieldMatch} :
    portMatch ports = .ok ms ↔
      (∀ r, ports = some r → r.low ≤ r.high) ∧
        ms = ports.toList.map (.ofPorts .applicationPort) := by
  cases ports with
  | none => simp [portMatch, eq_comm]
  | some r =>
    rw [portMatch]
    cases hempty : r.isEmpty with
    | true =>
      have hnone : ¬r.low ≤ r.high := PortRange.isEmpty_eq_true_iff.mp hempty
      simp [hnone]
    | false =>
      have hsome : r.low ≤ r.high := PortRange.isEmpty_eq_false_iff.mp hempty
      simp [hsome, eq_comm]

/-- What a rule emits is what the translation gives. -/
theorem partsOf_of_emits {e : Entity} {parts : EntryParts} (h : Emits e parts) :
    partsOf e = .ok parts := by
  cases h with
  | application app hports =>
    rw [partsOf, application, bind_eq_ok_iff]
    refine ⟨_, portMatch_eq_ok_iff.mpr ⟨hports, rfl⟩, ?_⟩
    rw [← ofMatches_filterMatches app]
    rfl
  | _ => rfl

/-- What the translation gives is what a rule emits. -/
theorem emits_of_partsOf {e : Entity} {parts : EntryParts} (h : partsOf e = .ok parts) :
    Emits e parts := by
  -- one case for each way through the translation, and none for those that fail
  cases e with
  | interface i =>
    obtain ⟨network, role, slice⟩ := i
    cases role with
    | access =>
      obtain rfl := Except.ok.inj h
      exact .accessInterface network slice
    | core =>
      obtain rfl := Except.ok.inj h
      exact .coreInterface network slice
    | unknown => cases h
    | buffering => cases h
  | uplinkSession s =>
    obtain ⟨destination, teid, drops⟩ := s
    obtain rfl := Except.ok.inj h
    cases drops with
    | false => exact .admittedUplinkSession destination teid
    | true => exact .droppedUplinkSession destination teid
  | downlinkSession s =>
    obtain ⟨ue, peer, drops, buffers⟩ := s
    -- buffering is asked for first, so only then does it matter whether the session drops
    cases buffers with
    | true =>
      obtain rfl := Except.ok.inj h
      exact .bufferedDownlinkSession ue peer drops
    | false =>
      cases drops with
      | true =>
        obtain rfl := Except.ok.inj h
        exact .droppedDownlinkSession ue peer
      | false =>
        cases peer with
        | none => cases h
        | some peer =>
          obtain rfl := Except.ok.inj h
          exact .forwardedDownlinkSession ue peer
  | uplinkTermination t =>
    obtain ⟨ue, app, counter, tc, drops⟩ := t
    cases drops with
    | true =>
      obtain rfl := Except.ok.inj h
      exact .droppedUplinkTermination ue app counter tc
    | false =>
      cases tc with
      | none =>
        obtain rfl := Except.ok.inj h
        exact .unclassifiedUplinkTermination ue app counter
      | some tc =>
        obtain rfl := Except.ok.inj h
        exact .classifiedUplinkTermination ue app counter tc
  | downlinkTermination t =>
    obtain ⟨ue, app, counter, teid, qfi, tc, drops⟩ := t
    cases drops with
    | true =>
      obtain rfl := Except.ok.inj h
      exact .droppedDownlinkTermination ue app counter teid qfi tc
    | false =>
      cases teid with
      | none => cases h
      | some teid =>
        cases qfi with
        | none => cases h
        | some qfi =>
          cases tc with
          | none =>
            obtain rfl := Except.ok.inj h
            exact .unclassifiedDownlinkTermination ue app counter teid qfi
          | some tc =>
            obtain rfl := Except.ok.inj h
            exact .classifiedDownlinkTermination ue app counter teid qfi tc
  | tunnelPeer p =>
    obtain rfl := Except.ok.inj h
    exact .tunnelPeer p
  | application app =>
    obtain ⟨ms, hms, h⟩ := bind_eq_ok_iff.mp h
    obtain ⟨hports, rfl⟩ := portMatch_eq_ok_iff.mp hms
    have hparts : parts = { matchKey := ⟨app.filterMatches⟩,
                            action := ⟨.setApplication, [⟨.application, .ofUInt8 app.id⟩]⟩,
                            priority := some app.priority } := by
      rw [← ofMatches_filterMatches app]
      exact (Except.ok.inj h).symm
    subst hparts
    exact .application app hports
  | counter c => cases h

/-- **The translation gives exactly what the rules emit.** -/
theorem partsOf_eq_ok_iff {e : Entity} {parts : EntryParts} :
    partsOf e = .ok parts ↔ Emits e parts :=
  ⟨emits_of_partsOf, partsOf_of_emits⟩

end Encoding

/-! ## What is emitted keeps to the declaration -/

namespace Emits

variable {e : Entity} {parts : EntryParts} {t : Pipeline.Table}

/-- The parts of a filter that are there are declared in the order in which they are emitted. -/
theorem sublist_fields_filterMatches (app : Application) :
    (app.filterMatches.map fun m => (⟨m.field, m.kind⟩ : Pipeline.MatchField)).Sublist
      Pipeline.applications.fields := by
  obtain ⟨id, priority, network, ports, protocol, slice⟩ := app
  have hoption : ∀ {α : Type} (f : α → FieldMatch) (o : Option α) (d : Pipeline.MatchField),
      (∀ a, (⟨(f a).field, (f a).kind⟩ : Pipeline.MatchField) = d) →
      ((o.toList.map f).map fun m => (⟨m.field, m.kind⟩ : Pipeline.MatchField)).Sublist [d] := by
    intro α f o d hd
    cases o with
    | none => exact List.nil_sublist _
    | some a =>
      rw [Option.toList_some, List.map_singleton, List.map_singleton, hd a]
  -- the three parts come in the order in which the table declares their fields
  have haddress := hoption (.ofPrefix .applicationAddress) network
    ⟨.applicationAddress, .longestPrefix⟩ fun _ => rfl
  have hports := hoption (.ofPorts .applicationPort) ports
    ⟨.applicationPort, .range⟩ fun _ => rfl
  have hprotocol := hoption (.ofMaskedByte .applicationProtocol) protocol
    ⟨.applicationProtocol, .ternary⟩ fun _ => rfl
  rw [Application.filterMatches, List.map_append, List.map_append]
  exact (haddress.append hports).append hprotocol

/-- The field matches that are emitted are fields of the table with their kinds, in order. -/
theorem sublist_fields (h : Emits e parts) (ht : Pipeline.tableFor? e.kind = some t) :
    (parts.matchKey.fieldMatches.map fun m => (⟨m.field, m.kind⟩ : Pipeline.MatchField)).Sublist
      t.fields := by
  cases h with
  | application app hports =>
    cases ht
    exact sublist_fields_filterMatches app
  | _ =>
    cases ht
    exact List.Sublist.refl _

/-- Every field match that is emitted is declared. -/
theorem declares (h : Emits e parts) (ht : Pipeline.tableFor? e.kind = some t) :
    ∀ m ∈ parts.matchKey.fieldMatches, t.Declares m := by
  intro m hm
  exact (h.sublist_fields ht).subset (List.mem_map.mpr ⟨m, hm, rfl⟩)

/-- The action that is emitted is one that the table takes. -/
theorem mem_actions (h : Emits e parts) (ht : Pipeline.tableFor? e.kind = some t) :
    parts.action.id ∈ t.actions := by
  cases h with
  | _ =>
    cases ht
    exact of_decide_eq_true rfl

/-- The match key that is emitted keeps to the table. -/
theorem checkKey_eq_ok (h : Emits e parts) (ht : Pipeline.tableFor? e.kind = some t) :
    t.checkKey parts.matchKey = .ok () :=
  (Pipeline.Table.checkKey_eq_ok_iff (Pipeline.tableFor?_eq_some_iff.mp ht).1).mpr (h.declares ht)

/-- A kind of which an entity is emitted has a table. -/
theorem exists_tableFor? (h : Emits e parts) : ∃ t, Pipeline.tableFor? e.kind = some t := by
  cases h with
  | _ => exact ⟨_, rfl⟩

end Emits

/-! ## The entry -/

/-- The entry that a table holds, given its parts. -/
def EntryParts.entryIn (parts : EntryParts) (table : TableId) : TableEntry where
  table
  matchKey := parts.matchKey
  priority := parts.priority
  action := some parts.action

/-- Drafting an entry from its table and its parts says them as they are. -/
theorem Encoding.build_settingsOf (table : TableId) (parts : EntryParts) :
    TableEntry.build (settingsOf table parts) = .ok (parts.entryIn table) := by
  obtain ⟨key, action, priority, advisory⟩ := parts
  cases priority with
  | none => rfl
  | some p => rfl

namespace EncodeError

/-- A draft, lifted into the translation of an entity, gives a value exactly if the draft does. -/
theorem lift_draft_eq_ok_iff {α : Type} {x : Except DraftError α} {a : α} :
    (liftM x : Except EncodeError α) = .ok a ↔ x = .ok a :=
  mapError_eq_ok_iff

/-- The check of a match key, lifted into the translation of an entity, gives a value exactly if the
check does. -/
theorem lift_matchKey_eq_ok_iff {α : Type} {x : Except Pipeline.MatchKeyError α} {a : α} :
    (liftM x : Except EncodeError α) = .ok a ↔ x = .ok a :=
  mapError_eq_ok_iff

end EncodeError

/-- **An entity is programmed by what the rules emit for it, in the table of its kind.** -/
theorem Entity.encode_eq_ok_iff {e : Entity} {r : EncodedEntry} :
    e.encode = .ok r ↔
      ∃ t parts, Pipeline.tableFor? e.kind = some t ∧ Emits e parts ∧
        r = ⟨parts.entryIn t.id, parts.advisory⟩ := by
  rw [encode, mapError_eq_ok_iff, toEntry]
  cases htable : Pipeline.tableFor? e.kind with
  | none => simp
  | some t =>
    simp only [bind_eq_ok_iff, pure_eq_ok_iff, EncodeError.lift_draft_eq_ok_iff,
      EncodeError.lift_matchKey_eq_ok_iff, Encoding.partsOf_eq_ok_iff, Encoding.build_settingsOf]
    constructor
    · rintro ⟨parts, hparts, ⟨⟩, -, entry, hentry, rfl⟩
      cases hentry
      exact ⟨t, parts, rfl, hparts, rfl⟩
    · rintro ⟨_, parts, hsame, hparts, rfl⟩
      cases hsame
      exact ⟨parts, hparts, (), hparts.checkKey_eq_ok htable, _, rfl, rfl⟩

end UserPlane
