import UserPlane.Identifier

/-! # The names of the pipeline

The tables, match fields, actions, parameters and counters that the user-plane pipeline declares,
and the numbers that it uses for sides and directions. -/

namespace UserPlane

/-! ## Tables -/

namespace TableId

/-- Where the prefixes of the user plane are. -/
def interfaces : TableId := ⟨"PreQosPipe.interfaces"⟩

/-- Where uplink sessions are. -/
def uplinkSessions : TableId := ⟨"PreQosPipe.sessions_uplink"⟩

/-- Where downlink sessions are. -/
def downlinkSessions : TableId := ⟨"PreQosPipe.sessions_downlink"⟩

/-- Where uplink terminations are. -/
def uplinkTerminations : TableId := ⟨"PreQosPipe.terminations_uplink"⟩

/-- Where downlink terminations are. -/
def downlinkTerminations : TableId := ⟨"PreQosPipe.terminations_downlink"⟩

/-- Where tunnel peers are. -/
def tunnelPeers : TableId := ⟨"PreQosPipe.tunnel_peers"⟩

/-- Where applications are. -/
def applications : TableId := ⟨"PreQosPipe.applications"⟩

end TableId

/-! ## Counter banks -/

namespace CounterId

/-- The bank that counts before quality of service is applied. -/
def beforeQos : CounterId := ⟨"PreQosPipe.pre_qos_counter"⟩

/-- The bank that counts after quality of service is applied. -/
def afterQos : CounterId := ⟨"PostQosPipe.post_qos_counter"⟩

end CounterId

/-! ## Match fields -/

namespace FieldId

/-- The prefix a packet is sent to. -/
def destinationPrefix : FieldId := ⟨"ipv4_dst_prefix"⟩

/-- The end of the tunnel that a packet comes through. -/
def n3Address : FieldId := ⟨"n3_address"⟩

/-- The identifier of that tunnel's endpoint. -/
def teid : FieldId := ⟨"teid"⟩

/-- The address of the user equipment. -/
def ueAddress : FieldId := ⟨"ue_address"⟩

/-- The application that a packet belongs to. -/
def application : FieldId := ⟨"app_id"⟩

/-- The peer that a packet is forwarded to. -/
def tunnelPeer : FieldId := ⟨"tunnel_peer_id"⟩

/-- The address of an application's server. -/
def applicationAddress : FieldId := ⟨"app_ip_addr"⟩

/-- The port of an application's server. -/
def applicationPort : FieldId := ⟨"app_l4_port"⟩

/-- The protocol that an application uses. -/
def applicationProtocol : FieldId := ⟨"app_ip_proto"⟩

end FieldId

/-! ## Actions -/

namespace ActionId

/-- Notes the side and direction of a packet. -/
def setSourceInterface : ActionId := ⟨"PreQosPipe.set_source_iface"⟩

/-- Admits a packet of an uplink session. -/
def setUplinkSession : ActionId := ⟨"PreQosPipe.set_session_uplink"⟩

/-- Drops a packet of an uplink session. -/
def dropUplinkSession : ActionId := ⟨"PreQosPipe.set_session_uplink_drop"⟩

/-- Notes the peer of a downlink session. -/
def setDownlinkSession : ActionId := ⟨"PreQosPipe.set_session_downlink"⟩

/-- Drops a packet of a downlink session. -/
def dropDownlinkSession : ActionId := ⟨"PreQosPipe.set_session_downlink_drop"⟩

/-- Buffers a packet of a downlink session. -/
def bufferDownlinkSession : ActionId := ⟨"PreQosPipe.set_session_downlink_buff"⟩

/-- Sends an uplink packet on in a traffic class. -/
def forwardUplink : ActionId := ⟨"PreQosPipe.uplink_term_fwd"⟩

/-- Sends an uplink packet on without a traffic class. -/
def forwardUplinkUnclassified : ActionId := ⟨"PreQosPipe.uplink_term_fwd_no_tc"⟩

/-- Drops an uplink packet. -/
def dropUplink : ActionId := ⟨"PreQosPipe.uplink_term_drop"⟩

/-- Sends a downlink packet on through a tunnel, in a traffic class. -/
def forwardDownlink : ActionId := ⟨"PreQosPipe.downlink_term_fwd"⟩

/-- Sends a downlink packet on through a tunnel, without a traffic class. -/
def forwardDownlinkUnclassified : ActionId := ⟨"PreQosPipe.downlink_term_fwd_no_tc"⟩

/-- Drops a downlink packet. -/
def dropDownlink : ActionId := ⟨"PreQosPipe.downlink_term_drop"⟩

/-- Loads the outer header of a tunnel. -/
def loadTunnel : ActionId := ⟨"PreQosPipe.load_tunnel_param"⟩

/-- Notes the application of a packet. -/
def setApplication : ActionId := ⟨"PreQosPipe.set_app_id"⟩

end ActionId

/-! ## Action parameters -/

namespace ParamId

/-- The side that a packet comes from. -/
def sourceInterface : ParamId := ⟨"src_iface"⟩

/-- The direction of a packet. -/
def direction : ParamId := ⟨"direction"⟩

/-- The slice of an interface. -/
def slice : ParamId := ⟨"slice_id"⟩

/-- The peer of a downlink session. -/
def tunnelPeer : ParamId := ⟨"tunnel_peer_id"⟩

/-- The cell that counts a packet. -/
def counter : ParamId := ⟨"ctr_idx"⟩

/-- The class in which a packet is sent on. -/
def trafficClass : ParamId := ⟨"tc"⟩

/-- The identifier of a tunnel's endpoint. -/
def teid : ParamId := ⟨"teid"⟩

/-- The identifier of a flow. -/
def qfi : ParamId := ⟨"qfi"⟩

/-- Where a tunnel begins. -/
def source : ParamId := ⟨"src_addr"⟩

/-- Where a tunnel ends. -/
def destination : ParamId := ⟨"dst_addr"⟩

/-- The port that a tunnel begins at. -/
def sourcePort : ParamId := ⟨"sport"⟩

/-- The number of an application. -/
def application : ParamId := ⟨"app_id"⟩

end ParamId

/-! ## Numbers -/

namespace Pipeline

/-- The source interface of traffic from the access side. -/
def accessSide : UInt8 := 1

/-- The source interface of traffic from the core side. -/
def coreSide : UInt8 := 2

/-- The direction of traffic from the access side. -/
def uplink : UInt8 := 1

/-- The direction of traffic from the core side. -/
def downlink : UInt8 := 2

end Pipeline

end UserPlane
