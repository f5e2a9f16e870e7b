import UserPlane.Json.Wire
import UserPlane.Codec

/-! # Entities in JSON

The JSON forms of the eight kinds of entities, which are records, of an entity of any kind, which is
the record of its kind with the kind as its tag, and of what encoding gives. Optional fields without
a value are left out when written. -/

namespace UserPlane

/-! ## Names -/

namespace InterfaceRole

/-- The word for a role. -/
def tag : InterfaceRole → String
  | unknown => "unknown"
  | access => "access"
  | core => "core"
  | buffering => "dbuf"

/-- The role with a word. -/
def ofTag? (tag : String) : Option InterfaceRole :=
  [unknown, access, core, buffering].find? fun role => role.tag = tag

/-- A role is written as its word. -/
def toJson (r : InterfaceRole) : Json := .string r.tag

/-- The role that a JSON value names, alone or within a record read as a whole. -/
def ofJson? (whole : Bool) (j : Json) : Option InterfaceRole := do ofTag? (← j.name? whole)

end InterfaceRole

namespace EntityKind

/-- The kind with a name. -/
def ofName? (name : String) : Option EntityKind := all.find? fun kind => kind.name = name

/-- A kind is written as its name. -/
def toJson (k : EntityKind) : Json := .string k.name

/-- The kind that a JSON value names. -/
def ofJson? (j : Json) : Option EntityKind := do ofName? (← j.name? false)

end EntityKind

/-! ## Records -/

namespace Interface

/-- The members of an interface. -/
def members (i : Interface) : List (String × Json) :=
  [("prefix", i.network.toJson), ("interface_type", i.role.toJson),
    ("slice_id", .ofNat i.slice.toNat)]

/-- An interface is the record of its members. -/
def toJson (i : Interface) : Json := .object i.members

/-- The interface that a record is, alone or read as a whole. -/
def ofJson? (whole : Bool) (j : Json) : Option Interface := do
  let [network, role, slice] ← j.slots? ["prefix", "interface_type", "slice_id"] | none
  some ⟨← Json.required Prefix.ofJson? network,
    ← Json.required (InterfaceRole.ofJson? whole) role,
    ← Json.required Json.uint8? slice⟩

end Interface

namespace UplinkSession

/-- The members of an uplink session. -/
def members (s : UplinkSession) : List (String × Json) :=
  [("tun_dst_addr", s.tunnelDestination.toJson),
    ("teid", .ofNat s.teid.toNat), ("drop", .bool s.drops)]

/-- An uplink session is the record of its members. -/
def toJson (s : UplinkSession) : Json := .object s.members

/-- The uplink session that a record is. -/
def ofJson? (j : Json) : Option UplinkSession := do
  let [tunnelDestination, teid, drops] ← j.slots? ["tun_dst_addr", "teid", "drop"] | none
  some ⟨← Json.required Address.ofJson? tunnelDestination,
    ← Json.required Json.uint32? teid,
    ← Json.defaulted false Json.bool? drops⟩

end UplinkSession

namespace DownlinkSession

/-- The members of a downlink session. -/
def members (s : DownlinkSession) : List (String × Json) :=
  [("ue_address", s.ueAddress.toJson)]
    ++ Json.given "tun_peer_id" (fun n => .ofNat n.toNat) s.tunnelPeer
    ++ [("drop", .bool s.drops), ("buffer", .bool s.buffers)]

/-- A downlink session is the record of its members. -/
def toJson (s : DownlinkSession) : Json := .object s.members

/-- The downlink session that a record is. -/
def ofJson? (j : Json) : Option DownlinkSession := do
  let [ueAddress, tunnelPeer, drops, buffers] ←
    j.slots? ["ue_address", "tun_peer_id", "drop", "buffer"] | none
  some ⟨← Json.required Address.ofJson? ueAddress,
    ← Json.optional Json.uint8? tunnelPeer,
    ← Json.defaulted false Json.bool? drops,
    ← Json.defaulted false Json.bool? buffers⟩

end DownlinkSession

namespace UplinkTermination

/-- The members of an uplink termination. -/
def members (t : UplinkTermination) : List (String × Json) :=
  [("ue_session_id", t.ueAddress.toJson),
    ("application_id", .ofNat t.application.toNat),
    ("counter_id", .ofNat t.counter.toNat)]
    ++ Json.given "traffic_class" (fun n => .ofNat n.toNat) t.trafficClass
    ++ [("drop", .bool t.drops)]

/-- An uplink termination is the record of its members. -/
def toJson (t : UplinkTermination) : Json := .object t.members

/-- The uplink termination that a record is. -/
def ofJson? (j : Json) : Option UplinkTermination := do
  let [ueAddress, application, counter, trafficClass, drops] ←
    j.slots? ["ue_session_id", "application_id", "counter_id", "traffic_class", "drop"] | none
  some ⟨← Json.required Address.ofJson? ueAddress,
    ← Json.required Json.uint8? application,
    ← Json.required Json.uint32? counter,
    ← Json.optional Json.uint8? trafficClass,
    ← Json.defaulted false Json.bool? drops⟩

end UplinkTermination

namespace DownlinkTermination

/-- The members of a downlink termination. -/
def members (t : DownlinkTermination) : List (String × Json) :=
  [("ue_session_id", t.ueAddress.toJson),
    ("application_id", .ofNat t.application.toNat),
    ("counter_id", .ofNat t.counter.toNat)]
    ++ Json.given "teid" (fun n => .ofNat n.toNat) t.teid
    ++ Json.given "qfi" (fun n => .ofNat n.toNat) t.qfi
    ++ Json.given "traffic_class" (fun n => .ofNat n.toNat) t.trafficClass
    ++ [("drop", .bool t.drops)]

/-- A downlink termination is the record of its members. -/
def toJson (t : DownlinkTermination) : Json := .object t.members

/-- The downlink termination that a record is. -/
def ofJson? (j : Json) : Option DownlinkTermination := do
  let [ueAddress, application, counter, teid, qfi, trafficClass, drops] ←
    j.slots? ["ue_session_id", "application_id", "counter_id", "teid", "qfi", "traffic_class",
      "drop"] | none
  some ⟨← Json.required Address.ofJson? ueAddress,
    ← Json.required Json.uint8? application,
    ← Json.required Json.uint32? counter,
    ← Json.optional Json.uint32? teid,
    ← Json.optional Json.uint8? qfi,
    ← Json.optional Json.uint8? trafficClass,
    ← Json.defaulted false Json.bool? drops⟩

end DownlinkTermination

namespace TunnelPeer

/-- The members of a tunnel peer. -/
def members (p : TunnelPeer) : List (String × Json) :=
  [("tun_peer_id", .ofNat p.id.toNat), ("src_addr", p.source.toJson),
    ("dst_addr", p.destination.toJson), ("src_port", .ofNat p.sourcePort.toNat)]

/-- A tunnel peer is the record of its members. -/
def toJson (p : TunnelPeer) : Json := .object p.members

/-- The tunnel peer that a record is. -/
def ofJson? (j : Json) : Option TunnelPeer := do
  let [id, source, destination, sourcePort] ←
    j.slots? ["tun_peer_id", "src_addr", "dst_addr", "src_port"] | none
  some ⟨← Json.required Json.uint8? id,
    ← Json.required Address.ofJson? source,
    ← Json.required Address.ofJson? destination,
    ← Json.required Json.uint16? sourcePort⟩

end TunnelPeer

namespace PortRange

/-- A port range is a record of its bounds. -/
def toJson (r : PortRange) : Json :=
  .object [("start", .ofNat r.low.toNat), ("end", .ofNat r.high.toNat)]

/-- The port range that a record without unknown members is. -/
def ofJson? (j : Json) : Option PortRange := do
  let [low, high] ← j.closedSlots? ["start", "end"] | none
  some ⟨← Json.required Json.uint16? low, ← Json.required Json.uint16? high⟩

end PortRange

namespace Application

/-- The members of an application. -/
def members (a : Application) : List (String × Json) :=
  [("app_id", .ofNat a.id.toNat),
    ("priority", .integer a.priority.toInt)]
    ++ Json.given "ip4_prefix" Prefix.toJson a.network
    ++ Json.given "l4_port_range" PortRange.toJson a.ports
    ++ Json.given "ip_proto" (fun n => .ofNat n.toNat) a.protocol
    ++ [("slice_id", .ofNat a.slice.toNat)]

/-- An application is the record of its members. -/
def toJson (a : Application) : Json := .object a.members

/-- The application that a record is. -/
def ofJson? (j : Json) : Option Application := do
  let [id, priority, network, ports, protocol, slice] ←
    j.slots? ["app_id", "priority", "ip4_prefix", "l4_port_range", "ip_proto", "slice_id"] | none
  some ⟨← Json.required Json.uint8? id,
    ← Json.required Json.int32? priority,
    ← Json.optional Prefix.ofJson? network,
    ← Json.optional PortRange.ofJson? ports,
    ← Json.optional Json.uint8? protocol,
    ← Json.defaulted mobileSlice Json.uint8? slice⟩

end Application

namespace Counter

/-- The members of a counter. -/
def members (c : Counter) : List (String × Json) := [("cell_id", .ofNat c.cell.toNat)]

/-- A counter is the record of its members. -/
def toJson (c : Counter) : Json := .object c.members

/-- The counter that a record is. -/
def ofJson? (j : Json) : Option Counter := do
  let [cell] ← j.slots? ["cell_id"] | none
  some ⟨← Json.required Json.uint32? cell⟩

end Counter

/-! ## Entities of any kind -/

namespace Entity

/-- The members of an entity, without its kind. -/
def members : Entity → List (String × Json)
  | interface i => i.members
  | uplinkSession s => s.members
  | downlinkSession s => s.members
  | uplinkTermination t => t.members
  | downlinkTermination t => t.members
  | tunnelPeer p => p.members
  | application a => a.members
  | counter c => c.members

/-- An entity is the record of its members, tagged with its kind. -/
def toJson (e : Entity) : Json := .object (("type", e.kind.toJson) :: e.members)

/-- The entity of a kind that a record gives, read as a whole. -/
def ofRecord? : EntityKind → Json → Option Entity
  | .interface, j => (Interface.ofJson? true j).map interface
  | .uplinkSession, j => (UplinkSession.ofJson? j).map uplinkSession
  | .downlinkSession, j => (DownlinkSession.ofJson? j).map downlinkSession
  | .uplinkTermination, j => (UplinkTermination.ofJson? j).map uplinkTermination
  | .downlinkTermination, j => (DownlinkTermination.ofJson? j).map downlinkTermination
  | .tunnelPeer, j => (TunnelPeer.ofJson? j).map tunnelPeer
  | .application, j => (Application.ofJson? j).map application
  | .counter, j => (Counter.ofJson? j).map counter

/-- The entity that a JSON value is. -/
def ofJson? (j : Json) : Option Entity := do
  let (tag, record) ← j.tagged? "type"
  let kind ← EntityKind.ofName? (← tag.string?)
  ofRecord? kind record

end Entity

/-! ## What encoding gives -/

namespace Advisory

/-- The tag of an advisory on a session that was to drop and buffer. -/
def dropAndBufferTag : String := "drop_and_buffer_downgraded"

/-- An advisory is a record tagged with what was done. -/
def toJson : Advisory → Json
  | dropAndBufferDowngraded normalized =>
    .object [("kind", .string dropAndBufferTag),
      ("normalized", normalized.toJson)]

/-- The advisory that a JSON value is. -/
def ofJson? (j : Json) : Option Advisory := do
  let (tag, record) ← j.tagged? "kind"
  if tag.string? = some dropAndBufferTag then
    let [normalized] ← record.slots? ["normalized"] | none
    some (dropAndBufferDowngraded (← Json.required DownlinkSession.ofJson? normalized))
  else none

end Advisory

namespace EncodedEntry

/-- An encoded entry is a record of the entry and the advisory, if there is one. -/
def toJson (e : EncodedEntry) : Json :=
  .object (("entry", e.entry.toJson) :: Json.given "advisory" Advisory.toJson e.advisory)

/-- The encoded entry that a record is. -/
def ofJson? (j : Json) : Option EncodedEntry := do
  let [entry, advisory] ← j.slots? ["entry", "advisory"] | none
  some ⟨← Json.required TableEntry.ofJson? entry, ← Json.optional Advisory.ofJson? advisory⟩

end EncodedEntry

end UserPlane
