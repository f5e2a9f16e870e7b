import UserPlane.Entity.Draft
import UserPlane.Codec.Reading

/-! # From table entries to entities

The table of an entry tells the kind of entity, its action the variant, and the match key and the
parameters the fields. **`TableEntry.toEntity`** checks the table, the action and the match key, in
this order, and then reads what the kind and the action need, and nothing else: a parameter that no
field comes from may be anything. -/

namespace UserPlane

/-- Why a table entry is no entity. -/
inductive DecodeError where
  /-- The table is not one of the pipeline. -/
  | unknownTable
  /-- The table does not take the action. -/
  | unexpectedAction (table : TableId) (action : ActionId)
  /-- The source interface is neither the access nor the core side. -/
  | unsupportedSide (side : UInt8)
  /-- The match key breaks the table's declaration. -/
  | matchKey (cause : Pipeline.MatchKeyError)
  /-- A part of the entry could not be read. -/
  | field (cause : FieldError)
  /-- The parts do not make an entity. -/
  | entity (cause : EntityError)
deriving DecidableEq

/-- Why an entry is no entity, in words. -/
def DecodeError.message : DecodeError → String
  | unknownTable => "not a UP4 table"
  | unexpectedAction table action =>
    "action '" ++ action.name ++ "' is not valid for table '" ++ table.name ++ "'"
  | unsupportedSide side => "unsupported source interface type " ++ describeByte side
  | matchKey cause => cause.message
  | field cause => cause.message
  | entity cause => cause.message

namespace DecodeError

/-- A part that cannot be read keeps the entry from being an entity. -/
instance : MonadLift (Except FieldError) (Except DecodeError) := ⟨Except.mapError field⟩

/-- A draft that cannot be finished keeps the entry from being an entity. -/
instance : MonadLift (Except EntityError) (Except DecodeError) := ⟨Except.mapError entity⟩

/-- A match key that breaks the declaration keeps the entry from being an entity. -/
instance : MonadLift (Except Pipeline.MatchKeyError) (Except DecodeError) :=
  ⟨Except.mapError matchKey⟩

end DecodeError

/-! ## One kind at a time -/

namespace Decoding

/-- What the source interface says about the role of a prefix. -/
def roleOf (side : UInt8) : Except DecodeError Interface.Setting :=
  if side = Pipeline.accessSide then .ok .access
  else if side = Pipeline.coreSide then .ok .core
  else .error (.unsupportedSide side)

/-- The interface that an entry programs. The direction follows from the role and is not read. -/
def interface (key : MatchKey) (action : Action) : Except DecodeError Interface := do
  let role ← roleOf (← action.byteOf .sourceInterface)
  let network ← key.prefixOf .destinationPrefix
  Interface.build [role, .network network, .slice mobileSlice]

/-- The uplink session that an entry programs. -/
def uplinkSession (key : MatchKey) (action : Action) : Except DecodeError UplinkSession := do
  let tunnelDestination ← key.addressOf .n3Address
  let teid ← key.wordOf .teid
  UplinkSession.build
    [.tunnelDestination tunnelDestination, .teid teid,
      .drops (action.id == ActionId.dropUplinkSession)]

/-- What the action of an entry says about a downlink session. -/
def downlinkBehaviour (action : Action) : Except DecodeError DownlinkSession.Setting := do
  -- The table takes one action besides these two, and it forwards.
  if action.id = .dropDownlinkSession then return .drops true
  else if action.id = .bufferDownlinkSession then return .buffers true
  else return .tunnelPeer (← action.byteOf .tunnelPeer)

/-- The downlink session that an entry programs. -/
def downlinkSession (key : MatchKey) (action : Action) : Except DecodeError DownlinkSession := do
  let ueAddress ← key.addressOf .ueAddress
  let behaviour ← downlinkBehaviour action
  DownlinkSession.build [.ueAddress ueAddress, behaviour]

/-- What the action of an entry says about an uplink termination. -/
def uplinkBehaviour (action : Action) : Except DecodeError (List UplinkTermination.Setting) := do
  if action.id = .dropUplink then return [.drops true]
  else if action.id = .forwardUplink then
    return [.trafficClass (← action.byteOf .trafficClass)]
  else return []

/-- The uplink termination that an entry programs. -/
def uplinkTermination (key : MatchKey) (action : Action) :
    Except DecodeError UplinkTermination := do
  let ueAddress ← key.addressOf .ueAddress
  let application ← key.byteOf .application
  let counter ← action.wordOf .counter
  let behaviour ← uplinkBehaviour action
  UplinkTermination.build
    ([.ueAddress ueAddress, .application application, .counter counter] ++ behaviour)

/-- What the action of an entry says about a downlink termination. -/
def downlinkForwarding (action : Action) :
    Except DecodeError (List DownlinkTermination.Setting) := do
  if action.id = .dropDownlink then return [.drops true]
  else
    let teid ← action.wordOf .teid
    let qfi ← action.byteOf .qfi
    if action.id = .forwardDownlink then
      return [.teid teid, .qfi qfi, .trafficClass (← action.byteOf .trafficClass)]
    else return [.teid teid, .qfi qfi]

/-- The downlink termination that an entry programs. -/
def downlinkTermination (key : MatchKey) (action : Action) :
    Except DecodeError DownlinkTermination := do
  let ueAddress ← key.addressOf .ueAddress
  let application ← key.byteOf .application
  let counter ← action.wordOf .counter
  let behaviour ← downlinkForwarding action
  DownlinkTermination.build
    ([.ueAddress ueAddress, .application application, .counter counter] ++ behaviour)

/-- The tunnel peer that an entry programs. -/
def tunnelPeer (key : MatchKey) (action : Action) : Except DecodeError TunnelPeer := do
  let id ← key.byteOf .tunnelPeer
  let source ← action.addressOf .source
  let destination ← action.addressOf .destination
  let sourcePort ← action.portOf .sourcePort
  TunnelPeer.build
    [.id id, .source source, .destination destination, .sourcePort sourcePort]

/-- What a field says if the key matches on it, and nothing otherwise. -/
def ifPresent {α : Type} (key : MatchKey) (field : FieldId)
    (read : MatchKey → FieldId → Except FieldError α) (say : α → Application.Setting) :
    Except FieldError (List Application.Setting) :=
  if key.contains field then (read key field).map fun a => [say a] else .ok []

/-- The application that an entry programs. -/
def application (entry : TableEntry) (action : Action) : Except DecodeError Application := do
  let id ← action.byteOf .application
  let priority ← entry.requirePriority
  let network ← ifPresent entry.matchKey .applicationAddress MatchKey.prefixOf .network
  let ports ← ifPresent entry.matchKey .applicationPort MatchKey.portsOf .ports
  let protocol ← ifPresent entry.matchKey .applicationProtocol MatchKey.maskedByteOf .protocol
  Application.build
    ([.id id, .priority priority, .slice mobileSlice] ++ network ++ ports ++ protocol)

/-- The entity of a kind that an entry with an action programs. -/
def entityOf (kind : EntityKind) (entry : TableEntry) (action : Action) :
    Except DecodeError Entity :=
  match kind with
  | .interface => .interface <$> interface entry.matchKey action
  | .uplinkSession => .uplinkSession <$> uplinkSession entry.matchKey action
  | .downlinkSession => .downlinkSession <$> downlinkSession entry.matchKey action
  | .uplinkTermination => .uplinkTermination <$> uplinkTermination entry.matchKey action
  | .downlinkTermination => .downlinkTermination <$> downlinkTermination entry.matchKey action
  | .tunnelPeer => .tunnelPeer <$> tunnelPeer entry.matchKey action
  | .application => .application <$> application entry action
  | .counter => .error .unknownTable

/-- The action of an entry, if the table takes it. -/
def acceptedAction (table : Pipeline.Table) (entry : TableEntry) : Except DecodeError Action := do
  let action ← entry.requireAction
  if table.accepts action.id then return action
  else .error (.unexpectedAction entry.table action.id)

end Decoding

/-! ## All kinds -/

/-- The entity that a table entry programs. -/
def TableEntry.toEntity (entry : TableEntry) : Except DecodeError Entity :=
  match Pipeline.tableNamed? entry.table with
  | none => .error .unknownTable
  | some table => do
    let action ← Decoding.acceptedAction table entry
    table.checkKey entry.matchKey
    Decoding.entityOf table.kind entry action

end UserPlane
