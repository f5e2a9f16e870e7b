import UserPlane.Entity.Description

/-! # Drafting entities

An entity is described by **settings**, statements about its fields in any order. A later setting
overrides an earlier one on the same field; fields never set are absent, off, or at their usual
value. A **draft** holds what has been said so far, and finishing it fails if a required field is
unset — the first one in the order of the entity's fields is reported — or, for an application, if
its port range is empty. -/

namespace UserPlane

/-- Why a draft is no entity. -/
inductive EntityError where
  /-- A required field was never set. -/
  | missingField (kind : EntityKind) (field : String)
  /-- The port range of an application holds no port. -/
  | invalidPortRange (range : PortRange)
deriving DecidableEq

/-- What is wrong with a draft, in words. -/
def EntityError.message : EntityError → String
  | missingField kind field => kind.name ++ " requires field '" ++ field ++ "'"
  | invalidPortRange range => "invalid L4 port range " ++ range.describe

/-- The value of a required field. -/
def EntityKind.require {α : Type} (kind : EntityKind) (field : String) :
    Option α → Except EntityError α
  | some a => .ok a
  | none => .error (.missingField kind field)

/-! ## Interfaces -/

namespace Interface

/-- An interface in the making. -/
structure Draft where
  network : Option Prefix := none
  role : InterfaceRole := .unknown
  slice : UInt8 := mobileSlice

/-- One statement about an interface in the making. -/
inductive Setting where
  | network (network : Prefix)
  | role (role : InterfaceRole)
  /-- The interface is on the access side. -/
  | access
  /-- The interface is on the core side. -/
  | core
  /-- The interface is the service that buffers. -/
  | bufferReceiver
  | slice (slice : UInt8)

/-- The draft after one more statement. -/
def Draft.set (d : Draft) : Setting → Draft
  | .network p => { d with network := some p }
  | .role r => { d with role := r }
  | .access => { d with role := .access }
  | .core => { d with role := .core }
  | .bufferReceiver => { d with role := .buffering }
  | .slice s => { d with slice := s }

/-- The interface drafted. -/
def Draft.finish (d : Draft) : Except EntityError Interface := do
  let network ← EntityKind.interface.require "prefix" d.network
  return { network, role := d.role, slice := d.slice }

/-- The interface that settings describe. -/
def build (settings : List Setting) : Except EntityError Interface :=
  (settings.foldl Draft.set {}).finish

end Interface

/-! ## Sessions -/

namespace UplinkSession

/-- An uplink session in the making. -/
structure Draft where
  tunnelDestination : Option Address := none
  teid : Option UInt32 := none
  drops : Bool := false

/-- One statement about an uplink session in the making. -/
inductive Setting where
  | tunnelDestination (address : Address)
  | teid (teid : UInt32)
  | drops (drops : Bool)

/-- The draft after one more statement. -/
def Draft.set (d : Draft) : Setting → Draft
  | .tunnelDestination a => { d with tunnelDestination := some a }
  | .teid n => { d with teid := some n }
  | .drops b => { d with drops := b }

/-- The uplink session drafted. -/
def Draft.finish (d : Draft) : Except EntityError UplinkSession := do
  let tunnelDestination ← EntityKind.uplinkSession.require "tun_dst_addr" d.tunnelDestination
  let teid ← EntityKind.uplinkSession.require "teid" d.teid
  return { tunnelDestination, teid, drops := d.drops }

/-- The uplink session that settings describe. -/
def build (settings : List Setting) : Except EntityError UplinkSession :=
  (settings.foldl Draft.set {}).finish

end UplinkSession

namespace DownlinkSession

/-- A downlink session in the making. -/
structure Draft where
  ueAddress : Option Address := none
  tunnelPeer : Option UInt8 := none
  drops : Bool := false
  buffers : Bool := false

/-- One statement about a downlink session in the making. -/
inductive Setting where
  | ueAddress (address : Address)
  | tunnelPeer (peer : UInt8)
  | drops (drops : Bool)
  | buffers (buffers : Bool)

/-- The draft after one more statement. -/
def Draft.set (d : Draft) : Setting → Draft
  | .ueAddress a => { d with ueAddress := some a }
  | .tunnelPeer p => { d with tunnelPeer := some p }
  | .drops b => { d with drops := b }
  | .buffers b => { d with buffers := b }

/-- The downlink session drafted. -/
def Draft.finish (d : Draft) : Except EntityError DownlinkSession := do
  let ueAddress ← EntityKind.downlinkSession.require "ue_address" d.ueAddress
  return { ueAddress, tunnelPeer := d.tunnelPeer, drops := d.drops, buffers := d.buffers }

/-- The downlink session that settings describe. -/
def build (settings : List Setting) : Except EntityError DownlinkSession :=
  (settings.foldl Draft.set {}).finish

end DownlinkSession

/-! ## Terminations -/

namespace UplinkTermination

/-- An uplink termination in the making. -/
structure Draft where
  ueAddress : Option Address := none
  application : Option UInt8 := none
  counter : Option UInt32 := none
  trafficClass : Option UInt8 := none
  drops : Bool := false

/-- One statement about an uplink termination in the making. -/
inductive Setting where
  | ueAddress (address : Address)
  | application (application : UInt8)
  | counter (counter : UInt32)
  | trafficClass (trafficClass : UInt8)
  | drops (drops : Bool)

/-- The draft after one more statement. -/
def Draft.set (d : Draft) : Setting → Draft
  | .ueAddress a => { d with ueAddress := some a }
  | .application n => { d with application := some n }
  | .counter n => { d with counter := some n }
  | .trafficClass c => { d with trafficClass := some c }
  | .drops b => { d with drops := b }

/-- The uplink termination drafted. -/
def Draft.finish (d : Draft) : Except EntityError UplinkTermination := do
  let ueAddress ← EntityKind.uplinkTermination.require "ue_session_id" d.ueAddress
  let application ← EntityKind.uplinkTermination.require "application_id" d.application
  let counter ← EntityKind.uplinkTermination.require "counter_id" d.counter
  return { ueAddress, application, counter, trafficClass := d.trafficClass, drops := d.drops }

/-- The uplink termination that settings describe. -/
def build (settings : List Setting) : Except EntityError UplinkTermination :=
  (settings.foldl Draft.set {}).finish

end UplinkTermination

namespace DownlinkTermination

/-- A downlink termination in the making. -/
structure Draft where
  ueAddress : Option Address := none
  application : Option UInt8 := none
  counter : Option UInt32 := none
  teid : Option UInt32 := none
  qfi : Option UInt8 := none
  trafficClass : Option UInt8 := none
  drops : Bool := false

/-- One statement about a downlink termination in the making. -/
inductive Setting where
  | ueAddress (address : Address)
  | application (application : UInt8)
  | counter (counter : UInt32)
  | teid (teid : UInt32)
  | qfi (qfi : UInt8)
  | trafficClass (trafficClass : UInt8)
  | drops (drops : Bool)

/-- The draft after one more statement. -/
def Draft.set (d : Draft) : Setting → Draft
  | .ueAddress a => { d with ueAddress := some a }
  | .application n => { d with application := some n }
  | .counter n => { d with counter := some n }
  | .teid n => { d with teid := some n }
  | .qfi n => { d with qfi := some n }
  | .trafficClass c => { d with trafficClass := some c }
  | .drops b => { d with drops := b }

/-- The downlink termination drafted. -/
def Draft.finish (d : Draft) : Except EntityError DownlinkTermination := do
  let ueAddress ← EntityKind.downlinkTermination.require "ue_session_id" d.ueAddress
  let application ← EntityKind.downlinkTermination.require "application_id" d.application
  let counter ← EntityKind.downlinkTermination.require "counter_id" d.counter
  return { ueAddress, application, counter, teid := d.teid, qfi := d.qfi,
           trafficClass := d.trafficClass, drops := d.drops }

/-- The downlink termination that settings describe. -/
def build (settings : List Setting) : Except EntityError DownlinkTermination :=
  (settings.foldl Draft.set {}).finish

end DownlinkTermination

/-! ## Tunnel peers -/

namespace TunnelPeer

/-- A tunnel peer in the making. -/
structure Draft where
  id : Option UInt8 := none
  source : Option Address := none
  destination : Option Address := none
  sourcePort : Option UInt16 := none

/-- One statement about a tunnel peer in the making. -/
inductive Setting where
  | id (id : UInt8)
  | source (address : Address)
  | destination (address : Address)
  | sourcePort (port : UInt16)

/-- The draft after one more statement. -/
def Draft.set (d : Draft) : Setting → Draft
  | .id n => { d with id := some n }
  | .source a => { d with source := some a }
  | .destination a => { d with destination := some a }
  | .sourcePort p => { d with sourcePort := some p }

/-- The tunnel peer drafted. -/
def Draft.finish (d : Draft) : Except EntityError TunnelPeer := do
  let id ← EntityKind.tunnelPeer.require "tun_peer_id" d.id
  let source ← EntityKind.tunnelPeer.require "src_addr" d.source
  let destination ← EntityKind.tunnelPeer.require "dst_addr" d.destination
  let sourcePort ← EntityKind.tunnelPeer.require "src_port" d.sourcePort
  return { id, source, destination, sourcePort }

/-- The tunnel peer that settings describe. -/
def build (settings : List Setting) : Except EntityError TunnelPeer :=
  (settings.foldl Draft.set {}).finish

end TunnelPeer

/-! ## Applications -/

namespace Application

/-- An application in the making. -/
structure Draft where
  id : Option UInt8 := none
  priority : Option Int32 := none
  network : Option Prefix := none
  ports : Option PortRange := none
  protocol : Option UInt8 := none
  slice : UInt8 := mobileSlice

/-- One statement about an application in the making. -/
inductive Setting where
  | id (id : UInt8)
  | priority (priority : Int32)
  | network (network : Prefix)
  | ports (ports : PortRange)
  | protocol (protocol : UInt8)
  | slice (slice : UInt8)

/-- The draft after one more statement. -/
def Draft.set (d : Draft) : Setting → Draft
  | .id n => { d with id := some n }
  | .priority p => { d with priority := some p }
  | .network p => { d with network := some p }
  | .ports r => { d with ports := some r }
  | .protocol p => { d with protocol := some p }
  | .slice s => { d with slice := s }

/-- Refuses a port range without ports. -/
def checkPorts : Option PortRange → Except EntityError Unit
  | some r => if r.isEmpty then .error (.invalidPortRange r) else .ok ()
  | none => .ok ()

/-- The application drafted. -/
def Draft.finish (d : Draft) : Except EntityError Application := do
  let id ← EntityKind.application.require "app_id" d.id
  let priority ← EntityKind.application.require "priority" d.priority
  checkPorts d.ports
  return { id, priority, network := d.network, ports := d.ports, protocol := d.protocol,
           slice := d.slice }

/-- The application that settings describe. -/
def build (settings : List Setting) : Except EntityError Application :=
  (settings.foldl Draft.set {}).finish

end Application

end UserPlane
