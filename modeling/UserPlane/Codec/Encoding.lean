import UserPlane.Entity.Description
import UserPlane.Pipeline.Table
import UserPlane.TableEntry

/-! # From entities to table entries

Each kind of entity has its way to the **parts** of a table entry: the fields that identify the
entity go into the match key, the others into the action and its parameters, and an application's
priority becomes that of the entry. A slice is never carried over. A downlink session that asks
both to drop and to buffer is programmed to buffer, with an **advisory** that says so. -/

namespace UserPlane

/-- What was changed about an entity so that it could be programmed. -/
inductive Advisory where
  /-- The session was to drop and buffer; the one given here drops no more. -/
  | dropAndBufferDowngraded (normalized : DownlinkSession)
deriving DecidableEq

/-- What was changed, in words. -/
def Advisory.message : Advisory → String
  | dropAndBufferDowngraded normalized =>
    "drop and buffer is not supported, encoded as buffer only: " ++ normalized.describe

/-- The table entry that programs an entity. -/
structure EncodedEntry where
  /-- The entry. -/
  entry : TableEntry
  /-- What was changed about the entity, if anything. -/
  advisory : Option Advisory
deriving DecidableEq

/-- Why no table entry programs an entity. -/
inductive EncodeError where
  /-- Counters are in no table. -/
  | noTable
  /-- An interface has to be on the access or the core side. -/
  | unsupportedRole
  /-- A downlink session has to drop, to buffer or to have a peer. -/
  | missingTunnelPeer
  /-- A downlink termination that does not drop needs the tunnel endpoint. -/
  | missingTeid
  /-- A downlink termination that does not drop needs the flow. -/
  | missingQfi
  /-- An application's port range has to hold a port. -/
  | emptyPortRange (range : PortRange)
  /-- The match key breaks the table's declaration. -/
  | matchKey (cause : Pipeline.MatchKeyError)
  /-- The parts do not make an entry. -/
  | draft (cause : DraftError)
deriving DecidableEq

/-- Why no entry programs an entity, in words. -/
def EncodeError.message : EncodeError → String
  | noTable => "counters are not stored in a table"
  | unsupportedRole => "interface is neither access nor core"
  | missingTunnelPeer => "forwarding downlink session requires a tunnel peer id"
  | missingTeid => "forwarding downlink termination requires a TEID"
  | missingQfi => "forwarding downlink termination requires a QFI"
  | emptyPortRange range => "empty L4 port range " ++ range.describe
  | matchKey cause => cause.message
  | draft cause => cause.message

namespace EncodeError

/-- A draft that cannot be finished is no entry. -/
instance : MonadLift (Except DraftError) (Except EncodeError) := ⟨Except.mapError draft⟩

/-- A match key that breaks the declaration is that of no entry. -/
instance : MonadLift (Except Pipeline.MatchKeyError) (Except EncodeError) :=
  ⟨Except.mapError matchKey⟩

end EncodeError

/-! ## The parts of an entry -/

/-- An entry but for its table. -/
structure EntryParts where
  /-- Which packets the entry matches. -/
  matchKey : MatchKey
  /-- What the entry does with the packets. -/
  action : Action
  /-- The entry's priority. -/
  priority : Option Int32 := none
  /-- What was changed about the entity. -/
  advisory : Option Advisory := none

namespace FieldMatch

/-- A match on one byte. -/
def ofByte (field : FieldId) (n : UInt8) : FieldMatch := ⟨field, .exact (.ofUInt8 n)⟩

/-- A match on a word. -/
def ofWord (field : FieldId) (n : UInt32) : FieldMatch := ⟨field, .exact (.ofUInt32 n)⟩

/-- A match on an address. -/
def ofAddress (field : FieldId) (a : Address) : FieldMatch := ⟨field, .exact (.ofAddress a)⟩

/-- A match on a prefix. -/
def ofPrefix (field : FieldId) (p : Prefix) : FieldMatch :=
  ⟨field, .longestPrefix (.ofAddress p.network) p.length.toUInt32⟩

/-- A match on a range of ports. -/
def ofPorts (field : FieldId) (r : PortRange) : FieldMatch :=
  ⟨field, .range (.ofUInt16 r.low) (.ofUInt16 r.high)⟩

/-- A match on one byte, by a mask of all its bits. -/
def ofMaskedByte (field : FieldId) (n : UInt8) : FieldMatch :=
  ⟨field, .ternary (.ofUInt8 n) (.ones 1)⟩

end FieldMatch

namespace Action.Setting

/-- A parameter of one byte. -/
def byte (id : ParamId) (n : UInt8) : Action.Setting := .param ⟨id, .ofUInt8 n⟩

/-- A parameter that is a port. -/
def port (id : ParamId) (n : UInt16) : Action.Setting := .param ⟨id, .ofUInt16 n⟩

/-- A parameter that is a word. -/
def word (id : ParamId) (n : UInt32) : Action.Setting := .param ⟨id, .ofUInt32 n⟩

/-- A parameter that is an address. -/
def address (id : ParamId) (a : Address) : Action.Setting := .param ⟨id, .ofAddress a⟩

end Action.Setting

namespace Encoding

/-! ## One kind at a time -/

/-- The source interface and the direction that stand for a role. -/
def sideOf : InterfaceRole → Except EncodeError (UInt8 × UInt8)
  | .access => .ok (Pipeline.accessSide, Pipeline.uplink)
  | .core => .ok (Pipeline.coreSide, Pipeline.downlink)
  | .unknown => .error .unsupportedRole
  | .buffering => .error .unsupportedRole

/-- The parts of the entry that programs an interface. -/
def interface (i : Interface) : Except EncodeError EntryParts := do
  let (side, direction) ← sideOf i.role
  let action ← Action.build
    [.id .setSourceInterface, .byte .sourceInterface side, .byte .direction direction,
      .byte .slice mobileSlice]
  return { matchKey := .ofMatches [.ofPrefix .destinationPrefix i.network], action }

/-- The parts of the entry that programs an uplink session. -/
def uplinkSession (s : UplinkSession) : Except EncodeError EntryParts := do
  let action ← Action.build
    [.id (if s.drops then .dropUplinkSession else .setUplinkSession)]
  return { matchKey := .ofMatches
             [.ofAddress .n3Address s.tunnelDestination, .ofWord .teid s.teid],
           action }

/-- What a downlink session asks of its traffic; buffering goes before dropping. -/
def downlinkBehaviour (s : DownlinkSession) : Except EncodeError (List Action.Setting) :=
  -- The pipeline cannot do both, and buffered traffic is not lost.
  if s.buffers then .ok [.id .bufferDownlinkSession]
  else if s.drops then .ok [.id .dropDownlinkSession]
  else match s.tunnelPeer with
    | some peer => .ok [.id .setDownlinkSession, .byte .tunnelPeer peer]
    | none => .error .missingTunnelPeer

/-- The advisory on a downlink session that asks both to drop and to buffer. -/
def downlinkAdvisory (s : DownlinkSession) : Option Advisory :=
  if s.drops && s.buffers then some (.dropAndBufferDowngraded { s with drops := false }) else none

/-- The parts of the entry that programs a downlink session. -/
def downlinkSession (s : DownlinkSession) : Except EncodeError EntryParts := do
  let behaviour ← downlinkBehaviour s
  let action ← Action.build behaviour
  return { matchKey := .ofMatches [.ofAddress .ueAddress s.ueAddress], action,
           advisory := downlinkAdvisory s }

/-- The match key of a termination. -/
def terminationKey (ueAddress : Address) (application : UInt8) : MatchKey :=
  .ofMatches [.ofAddress .ueAddress ueAddress, .ofByte .application application]

/-- What an uplink termination asks of its traffic. -/
def uplinkBehaviour (t : UplinkTermination) : List Action.Setting :=
  if t.drops then [.id .dropUplink]
  else match t.trafficClass with
    | some tc => [.byte .trafficClass tc, .id .forwardUplink]
    | none => [.id .forwardUplinkUnclassified]

/-- The parts of the entry that programs an uplink termination. -/
def uplinkTermination (t : UplinkTermination) : Except EncodeError EntryParts := do
  let action ← Action.build (.word .counter t.counter :: uplinkBehaviour t)
  return { matchKey := terminationKey t.ueAddress t.application, action }

/-- What a downlink termination that does not drop asks of its traffic. -/
def downlinkForwarding (teid : UInt32) (qfi : UInt8) : Option UInt8 → List Action.Setting
  | some tc => [.word .teid teid, .byte .qfi qfi, .byte .trafficClass tc, .id .forwardDownlink]
  | none => [.word .teid teid, .byte .qfi qfi, .id .forwardDownlinkUnclassified]

/-- What a downlink termination asks of its traffic. -/
def downlinkTerminationBehaviour (t : DownlinkTermination) :
    Except EncodeError (List Action.Setting) :=
  if t.drops then .ok [.id .dropDownlink]
  else match t.teid, t.qfi with
    | some teid, some qfi => .ok (downlinkForwarding teid qfi t.trafficClass)
    | some _, none => .error .missingQfi
    | none, _ => .error .missingTeid

/-- The parts of the entry that programs a downlink termination. -/
def downlinkTermination (t : DownlinkTermination) : Except EncodeError EntryParts := do
  let behaviour ← downlinkTerminationBehaviour t
  let action ← Action.build (.word .counter t.counter :: behaviour)
  return { matchKey := terminationKey t.ueAddress t.application, action }

/-- The parts of the entry that programs a tunnel peer. -/
def tunnelPeer (p : TunnelPeer) : Except EncodeError EntryParts := do
  let action ← Action.build
    [.id .loadTunnel, .address .source p.source, .address .destination p.destination,
      .port .sourcePort p.sourcePort]
  return { matchKey := .ofMatches [.ofByte .tunnelPeer p.id], action }

/-- The match on an application's ports, which have to be some. -/
def portMatch : Option PortRange → Except EncodeError (List FieldMatch)
  | some r =>
    if r.isEmpty then .error (.emptyPortRange r) else .ok [.ofPorts .applicationPort r]
  | none => .ok []

/-- The parts of the entry that programs an application. -/
def application (a : Application) : Except EncodeError EntryParts := do
  let network := a.network.toList.map (.ofPrefix .applicationAddress)
  let ports ← portMatch a.ports
  let protocol := a.protocol.toList.map (.ofMaskedByte .applicationProtocol)
  let action ← Action.build [.id .setApplication, .byte .application a.id]
  return { matchKey := .ofMatches (network ++ ports ++ protocol), action,
           priority := some a.priority }

/-! ## All kinds -/

/-- The parts of the entry that programs an entity. -/
def partsOf : Entity → Except EncodeError EntryParts
  | .interface i => interface i
  | .uplinkSession s => uplinkSession s
  | .downlinkSession s => downlinkSession s
  | .uplinkTermination t => uplinkTermination t
  | .downlinkTermination t => downlinkTermination t
  | .tunnelPeer p => tunnelPeer p
  | .application a => application a
  | .counter _ => .error .noTable

/-- What an entry in a table says, given its parts. -/
def settingsOf (table : TableId) (parts : EntryParts) : List TableEntry.Setting :=
  [.table table, .matchKey parts.matchKey, .action parts.action]
    ++ parts.priority.toList.map .priority

end Encoding

/-- The table entry that programs an entity. -/
def Entity.toEntry (entity : Entity) : Except EncodeError EncodedEntry :=
  match Pipeline.tableFor? entity.kind with
  | none => .error .noTable
  | some table => do
    let parts ← Encoding.partsOf entity
    table.checkKey parts.matchKey
    let entry ← TableEntry.build (Encoding.settingsOf table.id parts)
    return { entry, advisory := parts.advisory }

end UserPlane
