import UserPlane.Entity.Basic

/-! # Entities in words

The text of an entity in logs and error messages: its kind, and its fields by name. A field that
is not given is left out. -/

namespace UserPlane

/-- A truth value, in words. -/
def describeBool : Bool → String
  | true => "true"
  | false => "false"

/-- A field that is left out if it is not given. -/
def describeGiven {α : Type} (label : String) (write : α → String) : Option α → String
  | some a => ", " ++ label ++ "=" ++ write a
  | none => ""

/-- A one-byte number, in decimal. -/
def describeByte (n : UInt8) : String := Decimal.text n.toNat

/-- A four-byte number, in decimal. -/
def describeWord (n : UInt32) : String := Decimal.text n.toNat

/-- The name of a role. -/
def InterfaceRole.name : InterfaceRole → String
  | unknown => "UNKNOWN"
  | access => "ACCESS"
  | core => "CORE"
  | buffering => "DBUF"

/-- An interface, in words. -/
def Interface.describe (i : Interface) : String :=
  "Interface(prefix=" ++ i.network.text ++ ", type=" ++ i.role.name
    ++ ", slice_id=" ++ describeByte i.slice ++ ")"

/-- An uplink session, in words. -/
def UplinkSession.describe (s : UplinkSession) : String :=
  "UplinkSession(tun_dst_addr=" ++ s.tunnelDestination.text ++ ", teid=" ++ describeWord s.teid
    ++ ", drop=" ++ describeBool s.drops ++ ")"

/-- A downlink session, in words. -/
def DownlinkSession.describe (s : DownlinkSession) : String :=
  "DownlinkSession(ue_address=" ++ s.ueAddress.text
    ++ describeGiven "tun_peer_id" describeByte s.tunnelPeer
    ++ ", drop=" ++ describeBool s.drops ++ ", buffer=" ++ describeBool s.buffers ++ ")"

/-- An uplink termination, in words. -/
def UplinkTermination.describe (t : UplinkTermination) : String :=
  "UplinkTermination(ue_session_id=" ++ t.ueAddress.text
    ++ ", app_id=" ++ describeByte t.application ++ ", ctr_id=" ++ describeWord t.counter
    ++ describeGiven "tc" describeByte t.trafficClass
    ++ ", drop=" ++ describeBool t.drops ++ ")"

/-- A downlink termination, in words. -/
def DownlinkTermination.describe (t : DownlinkTermination) : String :=
  "DownlinkTermination(ue_session_id=" ++ t.ueAddress.text
    ++ ", app_id=" ++ describeByte t.application ++ ", ctr_id=" ++ describeWord t.counter
    ++ describeGiven "teid" describeWord t.teid ++ describeGiven "qfi" describeByte t.qfi
    ++ describeGiven "tc" describeByte t.trafficClass
    ++ ", drop=" ++ describeBool t.drops ++ ")"

/-- A tunnel peer, in words. -/
def TunnelPeer.describe (p : TunnelPeer) : String :=
  "GTP-Tunnel-Peer(" ++ describeByte p.id ++ " -> src:" ++ p.source.text
    ++ ", dst:" ++ p.destination.text ++ " srcPort:" ++ Decimal.text p.sourcePort.toNat ++ ")"

/-- A port range, in words. -/
def PortRange.describe (r : PortRange) : String :=
  Decimal.text r.low.toNat ++ "..=" ++ Decimal.text r.high.toNat

/-- An application, in words. -/
def Application.describe (a : Application) : String :=
  "Application(app_id=" ++ describeByte a.id ++ ", priority=" ++ Decimal.signedText a.priority.toInt
    ++ describeGiven "prefix" Prefix.text a.network
    ++ describeGiven "l4_ports" PortRange.describe a.ports
    ++ describeGiven "ip_proto" describeByte a.protocol
    ++ ", slice_id=" ++ describeByte a.slice ++ ")"

/-- A counter, in words. -/
def Counter.describe (c : Counter) : String := "Counter(cell_id=" ++ describeWord c.cell ++ ")"

/-- An entity, in words. -/
def Entity.describe : Entity → String
  | interface i => i.describe
  | uplinkSession s => s.describe
  | downlinkSession s => s.describe
  | uplinkTermination t => t.describe
  | downlinkTermination t => t.describe
  | tunnelPeer p => p.describe
  | application a => a.describe
  | counter c => c.describe

end UserPlane
