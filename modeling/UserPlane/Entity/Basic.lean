import UserPlane.Prefix

/-! # User-plane entities

What the control of a mobile core's user plane reasons about, as values: **interfaces**, uplink and
downlink **sessions** and **terminations**, **tunnel peers**, **applications** and **counters**.
`Entity` is one of any of these eight kinds. The fields are independent of each other: a session
may say both that it drops and that it buffers, and a port range may be empty. Which combinations
can be programmed is for the encoding to say. -/

namespace UserPlane

/-- The only slice that the pipeline programs. -/
def mobileSlice : UInt8 := 0

/-- What the addresses of an interface are for. -/
inductive InterfaceRole where
  /-- Not known. -/
  | unknown
  /-- The access side, where uplink traffic arrives. -/
  | access
  /-- The core side, where downlink traffic arrives. -/
  | core
  /-- The service that buffers downlink traffic. -/
  | buffering
deriving DecidableEq, Inhabited

/-- A prefix that the user plane owns. -/
structure Interface where
  /-- The addresses of the prefix. -/
  network : Prefix
  /-- What the addresses are for. -/
  role : InterfaceRole
  /-- The slice it serves. -/
  slice : UInt8
deriving DecidableEq

/-- An uplink session, known by the tunnel that carries its traffic. -/
structure UplinkSession where
  /-- Where the tunnel ends. -/
  tunnelDestination : Address
  /-- The tunnel's endpoint identifier. -/
  teid : UInt32
  /-- Whether its traffic is dropped. -/
  drops : Bool
deriving DecidableEq

/-- A downlink session, known by the address of the user equipment. -/
structure DownlinkSession where
  /-- The address of the user equipment. -/
  ueAddress : Address
  /-- The peer that its traffic is forwarded to. -/
  tunnelPeer : Option UInt8
  /-- Whether its traffic is dropped. -/
  drops : Bool
  /-- Whether its traffic is buffered. -/
  buffers : Bool
deriving DecidableEq

/-- The end of an uplink session for one application. -/
structure UplinkTermination where
  /-- The address of the user equipment. -/
  ueAddress : Address
  /-- The application. -/
  application : UInt8
  /-- The cell that counts its traffic. -/
  counter : UInt32
  /-- The class in which its traffic is sent on. -/
  trafficClass : Option UInt8
  /-- Whether its traffic is dropped. -/
  drops : Bool
deriving DecidableEq

/-- The end of a downlink session for one application. -/
structure DownlinkTermination where
  /-- The address of the user equipment. -/
  ueAddress : Address
  /-- The application. -/
  application : UInt8
  /-- The cell that counts its traffic. -/
  counter : UInt32
  /-- The identifier of the tunnel endpoint that its traffic goes to. -/
  teid : Option UInt32
  /-- The identifier of the flow that its traffic belongs to. -/
  qfi : Option UInt8
  /-- The class in which its traffic is sent on. -/
  trafficClass : Option UInt8
  /-- Whether its traffic is dropped. -/
  drops : Bool
deriving DecidableEq

/-- The outer header of tunnelled downlink traffic. -/
structure TunnelPeer where
  /-- The number by which sessions name the peer. -/
  id : UInt8
  /-- Where the tunnel begins. -/
  source : Address
  /-- Where the tunnel ends. -/
  destination : Address
  /-- The port it begins at. -/
  sourcePort : UInt16
deriving DecidableEq

/-- The ports from one to another, both included. A range is the pair of its bounds and nothing
else: how far a walk through the ports has come is no part of it, so that the bounds alone decide
whether it is empty. -/
structure PortRange where
  /-- The first port. -/
  low : UInt16
  /-- The last port. -/
  high : UInt16
deriving DecidableEq

/-- A filter that tells the traffic of an application. -/
structure Application where
  /-- The number of the application. -/
  id : UInt8
  /-- Which of several filters that match wins. -/
  priority : Int32
  /-- The addresses of its servers; none means any. -/
  network : Option Prefix
  /-- The ports of its servers; none means any. -/
  ports : Option PortRange
  /-- The protocol above IP; none means any. -/
  protocol : Option UInt8
  /-- The slice it belongs to. -/
  slice : UInt8
deriving DecidableEq

/-- A counter, as a place in the counter banks. -/
structure Counter where
  /-- The cell. -/
  cell : UInt32
deriving DecidableEq

namespace Interface

/-- Whether the interface is on the access side. -/
def isAccess (i : Interface) : Bool := i.role == .access

/-- Whether the interface is on the core side. -/
def isCore (i : Interface) : Bool := i.role == .core

/-- Whether the interface is the service that buffers. -/
def isBufferReceiver (i : Interface) : Bool := i.role == .buffering

end Interface

/-- Whether no port lies in the range. -/
def PortRange.isEmpty (r : PortRange) : Bool := r.high < r.low

/-! ## The kinds of entities -/

/-- The eight kinds of entities. -/
inductive EntityKind where
  | interface
  | uplinkSession
  | downlinkSession
  | uplinkTermination
  | downlinkTermination
  | tunnelPeer
  | application
  | counter
deriving DecidableEq

/-- An entity of any kind. -/
inductive Entity where
  | interface (interface : Interface)
  | uplinkSession (session : UplinkSession)
  | downlinkSession (session : DownlinkSession)
  | uplinkTermination (termination : UplinkTermination)
  | downlinkTermination (termination : DownlinkTermination)
  | tunnelPeer (peer : TunnelPeer)
  | application (application : Application)
  | counter (counter : Counter)
deriving DecidableEq

namespace EntityKind

/-- Every kind, in the order of the pipeline. -/
def all : List EntityKind :=
  [interface, uplinkSession, downlinkSession, uplinkTermination, downlinkTermination, tunnelPeer,
    application, counter]

/-- The place of a kind in the order of the pipeline. -/
def rank : EntityKind → Nat
  | interface => 0
  | uplinkSession => 1
  | downlinkSession => 2
  | uplinkTermination => 3
  | downlinkTermination => 4
  | tunnelPeer => 5
  | application => 6
  | counter => 7

/-- Kinds are ordered as in the pipeline. -/
instance : Ord EntityKind := ⟨fun a b => compare a.rank b.rank⟩

/-- The name of a kind. -/
def name : EntityKind → String
  | interface => "interface"
  | uplinkSession => "session_uplink"
  | downlinkSession => "session_downlink"
  | uplinkTermination => "termination_uplink"
  | downlinkTermination => "termination_downlink"
  | tunnelPeer => "tunnel_peer"
  | application => "application"
  | counter => "counter"

end EntityKind

/-- The kind of an entity. -/
def Entity.kind : Entity → EntityKind
  | interface _ => .interface
  | uplinkSession _ => .uplinkSession
  | downlinkSession _ => .downlinkSession
  | uplinkTermination _ => .uplinkTermination
  | downlinkTermination _ => .downlinkTermination
  | tunnelPeer _ => .tunnelPeer
  | application _ => .application
  | counter _ => .counter

end UserPlane
