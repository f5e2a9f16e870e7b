import UserPlane.Json.Entities
import UserPlane.Proofs.Json.Wire

/-! # Entities that are written and read

Each of the eight kinds of entities has members that are read back as a record of its fields: an
optional field without a value is left out and read as none, and no default stands in for a value
that was given. None of the fields is named like the tag (`Entity.untagged_members`), so an entity
is told by its kind and read by the reader of that kind (`Entity.ofRecord?_members`). So **whatever
entity is written to a document is read from it**, in either layout, and so is what encoding
gives. -/

namespace UserPlane

variable (room : Nat)

/-! ## Records -/

/-- A role is read from its word, alone or within a record read as a whole. -/
theorem InterfaceRole.faithful (whole : Bool) :
    Json.Faithful room InterfaceRole.toJson (InterfaceRole.ofJson? whole) := by
  refine .string room ?_
  intro role
  cases role <;> rfl

/-- The members of an interface are read, alone or as a whole. -/
theorem Interface.faithful_members (whole : Bool) :
    Json.FaithfulMembers room ["prefix", "interface_type", "slice_id"] members
      (ofJson? whole) := by
  have hnetwork := (Prefix.faithful room).required
  have hrole := (InterfaceRole.faithful room whole).required
  have hslice := (Json.Faithful.uint8 room).required
  refine .of_slots _ (fun i => [some i.network.toJson, some i.role.toJson,
    some (.ofNat i.slice.toNat)]) (by decide) (fun _ => rfl) (fun _ => rfl) ?_ ?_
  · intro i
    simp only [List.forall_mem_cons]
    exact ⟨hnetwork.printable i.network, hrole.printable i.role, hslice.printable i.slice,
      List.forall_mem_nil _⟩
  · intro i hslots
    rw [ofJson?, hslots]
    simp only [Option.bind_eq_bind, Option.bind_some, hnetwork.read_fill, hrole.read_fill,
      hslice.read_fill]

/-- The members of an uplink session are read. -/
theorem UplinkSession.faithful_members :
    Json.FaithfulMembers room ["tun_dst_addr", "teid", "drop"] members ofJson? := by
  have haddress := (Address.faithful room).required
  have hteid := (Json.Faithful.uint32 room).required
  have hdrops := (Json.Faithful.bool room).defaulted false
  refine .of_slots _ (fun s => [some s.tunnelDestination.toJson, some (.ofNat s.teid.toNat),
    some (.bool s.drops)]) (by decide) (fun _ => rfl) (fun _ => rfl) ?_ ?_
  · intro s
    simp only [List.forall_mem_cons]
    exact ⟨haddress.printable s.tunnelDestination, hteid.printable s.teid,
      hdrops.printable s.drops, List.forall_mem_nil _⟩
  · intro s hslots
    rw [ofJson?, hslots]
    simp only [Option.bind_eq_bind, Option.bind_some, haddress.read_fill, hteid.read_fill,
      hdrops.read_fill]

/-- The members of a downlink session are read, with a tunnel peer or without. -/
theorem DownlinkSession.faithful_members :
    Json.FaithfulMembers room ["ue_address", "tun_peer_id", "drop", "buffer"] members ofJson? := by
  have haddress := (Address.faithful room).required
  have hpeer := (Json.Faithful.uint8 room).optional
  have hflag := (Json.Faithful.bool room).defaulted false
  refine .of_slots _ (fun s => [some s.ueAddress.toJson,
    s.tunnelPeer.map fun n => .ofNat n.toNat, some (.bool s.drops), some (.bool s.buffers)])
    (by decide) (fun _ => rfl) ?_ ?_ ?_
  · rintro ⟨ueAddress, _ | peer, drops, buffers⟩ <;> rfl
  · intro s
    simp only [List.forall_mem_cons]
    exact ⟨haddress.printable s.ueAddress, hpeer.printable s.tunnelPeer,
      hflag.printable s.drops, hflag.printable s.buffers, List.forall_mem_nil _⟩
  · intro s hslots
    rw [ofJson?, hslots]
    simp only [Option.bind_eq_bind, Option.bind_some, haddress.read_fill, hpeer.read_fill,
      hflag.read_fill]

/-- The members of an uplink termination are read, with a traffic class or without. -/
theorem UplinkTermination.faithful_members :
    Json.FaithfulMembers room
      ["ue_session_id", "application_id", "counter_id", "traffic_class", "drop"] members
      ofJson? := by
  have haddress := (Address.faithful room).required
  have happlication := (Json.Faithful.uint8 room).required
  have hcounter := (Json.Faithful.uint32 room).required
  have hclass := (Json.Faithful.uint8 room).optional
  have hdrops := (Json.Faithful.bool room).defaulted false
  refine .of_slots _ (fun t => [some t.ueAddress.toJson, some (.ofNat t.application.toNat),
    some (.ofNat t.counter.toNat), t.trafficClass.map fun n => .ofNat n.toNat,
    some (.bool t.drops)]) (by decide) (fun _ => rfl) ?_ ?_ ?_
  · rintro ⟨ueAddress, application, counter, _ | trafficClass, drops⟩ <;> rfl
  · intro t
    simp only [List.forall_mem_cons]
    exact ⟨haddress.printable t.ueAddress, happlication.printable t.application,
      hcounter.printable t.counter, hclass.printable t.trafficClass, hdrops.printable t.drops,
      List.forall_mem_nil _⟩
  · intro t hslots
    rw [ofJson?, hslots]
    simp only [Option.bind_eq_bind, Option.bind_some, haddress.read_fill, happlication.read_fill,
      hcounter.read_fill, hclass.read_fill, hdrops.read_fill]

/-- The members of a downlink termination are read, whatever it says of tunnel and flow. -/
theorem DownlinkTermination.faithful_members :
    Json.FaithfulMembers room
      ["ue_session_id", "application_id", "counter_id", "teid", "qfi", "traffic_class", "drop"]
      members ofJson? := by
  have haddress := (Address.faithful room).required
  have happlication := (Json.Faithful.uint8 room).required
  have hcounter := (Json.Faithful.uint32 room).required
  have hteid := (Json.Faithful.uint32 room).optional
  have hbyte := (Json.Faithful.uint8 room).optional
  have hdrops := (Json.Faithful.bool room).defaulted false
  refine .of_slots _ (fun t => [some t.ueAddress.toJson, some (.ofNat t.application.toNat),
    some (.ofNat t.counter.toNat), t.teid.map fun n => .ofNat n.toNat,
    t.qfi.map fun n => .ofNat n.toNat, t.trafficClass.map fun n => .ofNat n.toNat,
    some (.bool t.drops)]) (by decide) (fun _ => rfl) ?_ ?_ ?_
  · rintro ⟨ueAddress, application, counter, _ | teid, _ | qfi, _ | trafficClass, drops⟩ <;> rfl
  · intro t
    simp only [List.forall_mem_cons]
    exact ⟨haddress.printable t.ueAddress, happlication.printable t.application,
      hcounter.printable t.counter, hteid.printable t.teid, hbyte.printable t.qfi,
      hbyte.printable t.trafficClass, hdrops.printable t.drops, List.forall_mem_nil _⟩
  · intro t hslots
    rw [ofJson?, hslots]
    simp only [Option.bind_eq_bind, Option.bind_some, haddress.read_fill, happlication.read_fill,
      hcounter.read_fill, hteid.read_fill, hbyte.read_fill, hdrops.read_fill]

/-- The members of a tunnel peer are read. -/
theorem TunnelPeer.faithful_members :
    Json.FaithfulMembers room ["tun_peer_id", "src_addr", "dst_addr", "src_port"] members
      ofJson? := by
  have hid := (Json.Faithful.uint8 room).required
  have haddress := (Address.faithful room).required
  have hport := (Json.Faithful.uint16 room).required
  refine .of_slots _ (fun p => [some (.ofNat p.id.toNat), some p.source.toJson,
    some p.destination.toJson, some (.ofNat p.sourcePort.toNat)])
    (by decide) (fun _ => rfl) (fun _ => rfl) ?_ ?_
  · intro p
    simp only [List.forall_mem_cons]
    exact ⟨hid.printable p.id, haddress.printable p.source, haddress.printable p.destination,
      hport.printable p.sourcePort, List.forall_mem_nil _⟩
  · intro p hslots
    rw [ofJson?, hslots]
    simp only [Option.bind_eq_bind, Option.bind_some, hid.read_fill, haddress.read_fill,
      hport.read_fill]

/-- A port range is read from its record, even if no port lies in it. -/
theorem PortRange.faithful : Json.Faithful (room + 1) PortRange.toJson PortRange.ofJson? := by
  have hport := (Json.Faithful.uint16 room).required
  refine (Json.FaithfulMembers.of_slots ["start", "end"]
    (fun r : PortRange => [some (.ofNat r.low.toNat), some (.ofNat r.high.toNat)])
    (by decide) (fun _ => rfl) (fun _ => rfl) ?_ ?_).faithful
  · intro r
    simp only [List.forall_mem_cons]
    exact ⟨hport.printable r.low, hport.printable r.high, List.forall_mem_nil _⟩
  · intro r hslots
    rw [ofJson?, Json.closedSlots?_filled, hslots]
    simp only [Option.bind_eq_bind, Option.bind_some, hport.read_fill]

/-- The members of an application are read, whichever of its three filters are given. -/
theorem Application.faithful_members :
    Json.FaithfulMembers (room + 1)
      ["app_id", "priority", "ip4_prefix", "l4_port_range", "ip_proto", "slice_id"] members
      ofJson? := by
  have hid := (Json.Faithful.uint8 (room + 1)).required
  have hpriority := (Json.Faithful.int32 (room + 1)).required
  have hnetwork := (Prefix.faithful (room + 1)).optional
  have hports := (PortRange.faithful room).optional
  have hprotocol := (Json.Faithful.uint8 (room + 1)).optional
  have hslice := (Json.Faithful.uint8 (room + 1)).defaulted mobileSlice
  refine .of_slots _ (fun a => [some (.ofNat a.id.toNat), some (.integer a.priority.toInt),
    a.network.map Prefix.toJson, a.ports.map PortRange.toJson,
    a.protocol.map fun n => .ofNat n.toNat, some (.ofNat a.slice.toNat)])
    (by decide) (fun _ => rfl) ?_ ?_ ?_
  · rintro ⟨id, priority, _ | network, _ | ports, _ | protocol, slice⟩ <;> rfl
  · intro a
    simp only [List.forall_mem_cons]
    exact ⟨hid.printable a.id, hpriority.printable a.priority, hnetwork.printable a.network,
      hports.printable a.ports, hprotocol.printable a.protocol, hslice.printable a.slice,
      List.forall_mem_nil _⟩
  · intro a hslots
    rw [ofJson?, hslots]
    simp only [Option.bind_eq_bind, Option.bind_some, hid.read_fill, hpriority.read_fill,
      hnetwork.read_fill, hports.read_fill, hprotocol.read_fill, hslice.read_fill]

/-- The only member of a counter is read. -/
theorem Counter.faithful_members :
    Json.FaithfulMembers room ["cell_id"] members ofJson? := by
  have hcell := (Json.Faithful.uint32 room).required
  refine .of_slots _ (fun c => [some (.ofNat c.cell.toNat)]) (by decide) (fun _ => rfl)
    (fun _ => rfl) ?_ ?_
  · intro c
    simp only [List.forall_mem_cons]
    exact ⟨hcell.printable c.cell, List.forall_mem_nil _⟩
  · intro c hslots
    rw [ofJson?, hslots]
    simp only [Option.bind_eq_bind, Option.bind_some, hcell.read_fill]

/-! ## Entities of any kind -/

/-- A kind is told by its name. -/
theorem EntityKind.ofName?_name (kind : EntityKind) : ofName? kind.name = some kind := by
  cases kind <;> rfl

/-- A kind alone is read from its name. -/
theorem EntityKind.faithful : Json.Faithful room EntityKind.toJson EntityKind.ofJson? :=
  .string room ofName?_name

namespace Entity

/-- An entity is written next to its tag, which none of its fields is named like. -/
theorem untagged_members (e : Entity) : Json.Untagged (room + 1) "type" e.members := by
  cases e with
  | interface i =>
    exact .of_faithfulMembers (Interface.faithful_members _ true) (by decide) i
  | uplinkSession s =>
    exact .of_faithfulMembers (UplinkSession.faithful_members _) (by decide) s
  | downlinkSession s =>
    exact .of_faithfulMembers (DownlinkSession.faithful_members _) (by decide) s
  | uplinkTermination t =>
    exact .of_faithfulMembers (UplinkTermination.faithful_members _) (by decide) t
  | downlinkTermination t =>
    exact .of_faithfulMembers (DownlinkTermination.faithful_members _) (by decide) t
  | tunnelPeer p =>
    exact .of_faithfulMembers (TunnelPeer.faithful_members _) (by decide) p
  | application a =>
    exact .of_faithfulMembers (Application.faithful_members _) (by decide) a
  | counter c =>
    exact .of_faithfulMembers (Counter.faithful_members _) (by decide) c

/-- The members of an entity are read as an entity of its kind. -/
theorem ofRecord?_members (e : Entity) : ofRecord? e.kind (.object e.members) = some e := by
  cases e with
  | interface i =>
    have hread := (Interface.faithful_members 0 true).read_object i
    rw [kind, members, ofRecord?, hread, Option.map_some]
  | uplinkSession s =>
    have hread := (UplinkSession.faithful_members 0).read_object s
    rw [kind, members, ofRecord?, hread, Option.map_some]
  | downlinkSession s =>
    have hread := (DownlinkSession.faithful_members 0).read_object s
    rw [kind, members, ofRecord?, hread, Option.map_some]
  | uplinkTermination t =>
    have hread := (UplinkTermination.faithful_members 0).read_object t
    rw [kind, members, ofRecord?, hread, Option.map_some]
  | downlinkTermination t =>
    have hread := (DownlinkTermination.faithful_members 0).read_object t
    rw [kind, members, ofRecord?, hread, Option.map_some]
  | tunnelPeer p =>
    have hread := (TunnelPeer.faithful_members 0).read_object p
    rw [kind, members, ofRecord?, hread, Option.map_some]
  | application a =>
    have hread := (Application.faithful_members 0).read_object a
    rw [kind, members, ofRecord?, hread, Option.map_some]
  | counter c =>
    have hread := (Counter.faithful_members 0).read_object c
    rw [kind, members, ofRecord?, hread, Option.map_some]

/-- An entity is read from its record by its tag. -/
theorem faithful : Json.Faithful (room + 2) toJson ofJson? where
  printable := by
    intro e
    exact Json.printable_tagged .nil (.string _ e.kind.name) (e.untagged_members room)
  ne_null := by
    rintro e ⟨⟩
  read_write := by
    intro e
    have htagged := Json.tagged?_object .nil (.string _ e.kind.name) (e.untagged_members room)
    rw [List.nil_append, List.nil_append] at htagged
    rw [toJson, EntityKind.toJson, ofJson?, htagged]
    simp only [Option.bind_eq_bind, Option.bind_some, Json.string?, EntityKind.ofName?_name,
      ofRecord?_members]

end Entity

/-! ## What encoding gives -/

/-- A session as an advisory names it is read from its record. -/
theorem DownlinkSession.faithful : Json.Faithful (room + 1) toJson ofJson? :=
  (faithful_members room).faithful

namespace Advisory

/-- An advisory has one member beside its tag. -/
theorem untagged_normalized (s : DownlinkSession) :
    Json.Untagged (room + 1) "kind" [("normalized", s.toJson)] where
  printable := List.forall_mem_singleton.mpr ((DownlinkSession.faithful room).printable s)
  not_mem := by
    simp

/-- An advisory is read from its record by its tag. -/
theorem faithful : Json.Faithful (room + 2) toJson ofJson? where
  printable := by
    rintro ⟨s⟩
    exact Json.printable_tagged .nil (.string _ dropAndBufferTag) (untagged_normalized room s)
  ne_null := by
    rintro ⟨s⟩ ⟨⟩
  read_write := by
    rintro ⟨s⟩
    -- once the tag is gone, there is only the session left
    have htagged := Json.tagged?_object .nil (.string _ dropAndBufferTag)
      (untagged_normalized room s)
    have hslots : Json.slots? ["normalized"] (.object [("normalized", s.toJson)]) =
        some [some s.toJson] := by
      rw [Json.slots?, List.mapM_cons, Json.slot?_cons_self List.not_mem_nil]
      rfl
    have hsession := (DownlinkSession.faithful room).required.read_fill s
    rw [List.nil_append, List.nil_append] at htagged
    rw [toJson, ofJson?, htagged]
    simp only [Option.bind_eq_bind, Option.bind_some, Json.string?, if_pos, hslots, hsession]

end Advisory

/-- An encoded entry is read from its record, with an advisory or without. -/
theorem EncodedEntry.faithful :
    Json.Faithful (room + 5) EncodedEntry.toJson EncodedEntry.ofJson? := by
  have hentry := (TableEntry.faithful room).required
  have hadvisory := (Advisory.faithful (room + 2)).optional
  refine (Json.FaithfulMembers.of_slots ["entry", "advisory"]
    (fun e : EncodedEntry => [some e.entry.toJson, e.advisory.map Advisory.toJson])
    (by decide) (fun _ => rfl) ?_ ?_ ?_).faithful
  · rintro ⟨entry, _ | advisory⟩ <;> rfl
  · intro e
    simp only [List.forall_mem_cons]
    exact ⟨hentry.printable e.entry, hadvisory.printable e.advisory, List.forall_mem_nil _⟩
  · intro e hslots
    rw [ofJson?, hslots]
    simp only [Option.bind_eq_bind, Option.bind_some, hentry.read_fill, hadvisory.read_fill]

/-! ## Documents -/

/-- **Entities are read from the documents they are written to**, in either layout, each as the
entity it is and so as one of its kind; and so is what encoding gives. -/
theorem Json.readText_write_entity (layout : Layout) :
    (∀ e : Entity, readText Entity.ofJson? (write layout e.toJson) = .ok e ∧
      (readText Entity.ofJson? (write layout e.toJson)).map Entity.kind = .ok e.kind) ∧
      ∀ r : EncodedEntry, readText EncodedEntry.ofJson? (write layout r.toJson) = .ok r := by
  refine ⟨?_, ?_⟩
  · intro e
    have hread := (Entity.faithful 0).readText_write (by decide) layout e
    refine ⟨hread, ?_⟩
    rw [hread]
    rfl
  · exact (EncodedEntry.faithful 0).readText_write (by decide) layout

end UserPlane
