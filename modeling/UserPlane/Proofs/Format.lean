import UserPlane.Proofs.Reading
import UserPlane.Proofs.Declaration
import UserPlane.Codec

/-! # The format of table entries

What a table entry has to look like to program an entity, said without the reader: the table is one
of the pipeline, the table takes the action and declares every field match, and the match key and
the parameters **tell** the fields of the entity (`Entity.ToldBy`), each kind in its own way. The
reader of a kind accepts exactly what is told in the way of that kind, and returns exactly the
entity that is told. -/

namespace UserPlane

/-! ## What each kind has to be told

One structure a kind, with a part for each field of the entity. Which optional fields there are, and
what the flags are, follows from the name of the action alone. -/

/-- An entry that programs an interface tells its prefix and its side. -/
structure Interface.ToldBy (i : Interface) (key : MatchKey) (a : Action) : Prop where
  network : key.TellsPrefix .destinationPrefix i.network
  side : (i.role = .access ∧ a.TellsNumber .sourceInterface 1) ∨
    (i.role = .core ∧ a.TellsNumber .sourceInterface 2)
  slice : i.slice = 0

/-- An entry that programs an uplink session tells the tunnel. -/
structure UplinkSession.ToldBy (s : UplinkSession) (key : MatchKey) (a : Action) : Prop where
  tunnelDestination : key.TellsNumber .n3Address s.tunnelDestination.bits.toNat
  teid : key.TellsNumber .teid s.teid.toNat
  drops : s.drops = true ↔ a.id = .dropUplinkSession

/-- An entry that programs a downlink session tells the user equipment, and the peer if the action
forwards. -/
structure DownlinkSession.ToldBy (s : DownlinkSession) (key : MatchKey) (a : Action) : Prop where
  ueAddress : key.TellsNumber .ueAddress s.ueAddress.bits.toNat
  tunnelPeer : ToldWhen (a.id = .setDownlinkSession)
    (fun n : UInt8 => a.TellsNumber .tunnelPeer n.toNat) s.tunnelPeer
  drops : s.drops = true ↔ a.id = .dropDownlinkSession
  buffers : s.buffers = true ↔ a.id = .bufferDownlinkSession

/-- **One action asks for one thing**: the three actions of downlink sessions exclude each other,
and both flags and the peer follow from which of them it is. -/
theorem DownlinkSession.ToldBy.behaviour {s : DownlinkSession} {key : MatchKey} {a : Action}
    (h : s.ToldBy key a) (ha : a.id ∈ Pipeline.downlinkSessions.actions) :
    (a.id = .setDownlinkSession ∧ ∃ peer : UInt8, a.TellsNumber .tunnelPeer peer.toNat ∧
        s = ⟨s.ueAddress, some peer, false, false⟩) ∨
      (a.id = .dropDownlinkSession ∧ s = ⟨s.ueAddress, none, true, false⟩) ∨
      (a.id = .bufferDownlinkSession ∧ s = ⟨s.ueAddress, none, false, true⟩) := by
  obtain ⟨ue, peer, drops, buffers⟩ := s
  obtain ⟨-, hpeer, hdrops, hbuffers⟩ := h
  have hadmits : a.id ≠ .dropDownlinkSession → drops = false := by
    intro hne
    exact Bool.eq_false_iff.mpr (mt hdrops.mp hne)
  have hpasses : a.id ≠ .bufferDownlinkSession → buffers = false := by
    intro hne
    exact Bool.eq_false_iff.mpr (mt hbuffers.mp hne)
  rcases Pipeline.mem_actions_downlinkSessions.mp ha with hid | hid | hid
  · obtain ⟨p, rfl, hp⟩ := hpeer.exists_some hid
    obtain rfl : drops = false := hadmits (by rw [hid]; decide)
    obtain rfl : buffers = false := hpasses (by rw [hid]; decide)
    exact Or.inl ⟨hid, p, hp, rfl⟩
  · obtain rfl : peer = none := hpeer.eq_none (by rw [hid]; decide)
    obtain rfl : drops = true := hdrops.mpr hid
    obtain rfl : buffers = false := hpasses (by rw [hid]; decide)
    exact Or.inr (Or.inl ⟨hid, rfl⟩)
  · obtain rfl : peer = none := hpeer.eq_none (by rw [hid]; decide)
    obtain rfl : drops = false := hadmits (by rw [hid]; decide)
    obtain rfl : buffers = true := hbuffers.mpr hid
    exact Or.inr (Or.inr ⟨hid, rfl⟩)

/-- An entry that programs an uplink termination tells the user equipment, the application and the
counter, and the traffic class if the action has one. -/
structure UplinkTermination.ToldBy (t : UplinkTermination) (key : MatchKey) (a : Action) :
    Prop where
  ueAddress : key.TellsNumber .ueAddress t.ueAddress.bits.toNat
  application : key.TellsNumber .application t.application.toNat
  counter : a.TellsNumber .counter t.counter.toNat
  trafficClass : ToldWhen (a.id = .forwardUplink)
    (fun n : UInt8 => a.TellsNumber .trafficClass n.toNat) t.trafficClass
  drops : t.drops = true ↔ a.id = .dropUplink

/-- Whether an action sends downlink packets on, and so through a tunnel. -/
def ActionId.ForwardsDownlink (id : ActionId) : Prop :=
  id = .forwardDownlink ∨ id = .forwardDownlinkUnclassified

/-- A packet that is dropped is not sent on. -/
theorem ActionId.not_forwardsDownlink_of_drop {id : ActionId} (h : id = .dropDownlink) :
    ¬id.ForwardsDownlink := by
  subst h
  unfold ForwardsDownlink
  decide

/-- An entry that programs a downlink termination tells the user equipment, the application and the
counter, the tunnel if the action forwards, and the traffic class if the action has one. -/
structure DownlinkTermination.ToldBy (t : DownlinkTermination) (key : MatchKey) (a : Action) :
    Prop where
  ueAddress : key.TellsNumber .ueAddress t.ueAddress.bits.toNat
  application : key.TellsNumber .application t.application.toNat
  counter : a.TellsNumber .counter t.counter.toNat
  teid : ToldWhen a.id.ForwardsDownlink (fun n : UInt32 => a.TellsNumber .teid n.toNat) t.teid
  qfi : ToldWhen a.id.ForwardsDownlink (fun n : UInt8 => a.TellsNumber .qfi n.toNat) t.qfi
  trafficClass : ToldWhen (a.id = .forwardDownlink)
    (fun n : UInt8 => a.TellsNumber .trafficClass n.toNat) t.trafficClass
  drops : t.drops = true ↔ a.id = .dropDownlink

/-- An entry that programs a tunnel peer tells all of it. -/
structure TunnelPeer.ToldBy (p : TunnelPeer) (key : MatchKey) (a : Action) : Prop where
  id : key.TellsNumber .tunnelPeer p.id.toNat
  source : a.TellsNumber .source p.source.bits.toNat
  destination : a.TellsNumber .destination p.destination.bits.toNat
  sourcePort : a.TellsNumber .sourcePort p.sourcePort.toNat

/-- An entry that programs an application tells its number and its priority, and the parts of the
filter that the key matches on. -/
structure Application.ToldBy (app : Application) (entry : TableEntry) (a : Action) : Prop where
  id : a.TellsNumber .application app.id.toNat
  priority : entry.priority = some app.priority
  network : ToldWhen (entry.matchKey.contains .applicationAddress)
    (entry.matchKey.TellsPrefix .applicationAddress) app.network
  ports : ToldWhen (entry.matchKey.contains .applicationPort)
    (entry.matchKey.TellsPorts .applicationPort) app.ports
  protocol : ToldWhen (entry.matchKey.contains .applicationProtocol)
    (fun n : UInt8 => entry.matchKey.TellsMaskedNumber .applicationProtocol n.toNat) app.protocol
  slice : app.slice = 0

/-- The ports that are told hold one. -/
theorem Application.ToldBy.low_le_high {app : Application} {entry : TableEntry} {a : Action}
    (h : app.ToldBy entry a) : ∀ r ∈ app.ports, r.low ≤ r.high := by
  intro r hr
  have hports := h.ports
  rw [Option.mem_def.mp hr] at hports
  obtain ⟨-, low, high, -, -, -, hle⟩ := hports
  exact hle

/-- An entry with an action tells an entity in the way of its kind; no entry tells a counter. -/
def Entity.ToldBy (e : Entity) (entry : TableEntry) (a : Action) : Prop :=
  match e with
  | .interface i => i.ToldBy entry.matchKey a
  | .uplinkSession s => s.ToldBy entry.matchKey a
  | .downlinkSession s => s.ToldBy entry.matchKey a
  | .uplinkTermination t => t.ToldBy entry.matchKey a
  | .downlinkTermination t => t.ToldBy entry.matchKey a
  | .tunnelPeer p => p.ToldBy entry.matchKey a
  | .application app => app.ToldBy entry a
  | .counter _ => False

/-! ## One kind at a time -/

namespace Application

/-- The statements that say each field of an application. -/
def settings (app : Application) : List Setting :=
  [.id app.id, .priority app.priority, .slice app.slice] ++ app.network.toList.map .network
    ++ app.ports.toList.map .ports ++ app.protocol.toList.map .protocol

/-- Drafting an application says its fields as they are, and refuses an empty range. -/
theorem build_settings (app : Application) :
    build app.settings = (checkPorts app.ports).map fun _ => app := by
  obtain ⟨id, priority, network, ports, protocol, slice⟩ := app
  cases network <;> cases ports <;> cases protocol <;> rfl

/-- Ports are refused exactly if they are said to be some, and are none. -/
theorem checkPorts_eq_ok_iff {ports : Option PortRange} :
    checkPorts ports = .ok () ↔ ∀ r ∈ ports, r.low ≤ r.high := by
  cases ports with
  | none => exact iff_of_true rfl nofun
  | some r =>
    rw [checkPorts]
    cases hempty : r.isEmpty with
    | true =>
      have hnone : ¬r.low ≤ r.high := PortRange.isEmpty_eq_true_iff.mp hempty
      exact iff_of_false nofun fun h => hnone (h r rfl)
    | false =>
      have hsome : r.low ≤ r.high := PortRange.isEmpty_eq_false_iff.mp hempty
      refine iff_of_true rfl ?_
      rintro _ ⟨⟩
      exact hsome

end Application

namespace DecodeError

/-- The reader of a part, lifted into the reader of the entry, gives a value exactly if it does by
itself. -/
theorem lift_field_eq_ok_iff {α : Type} {x : Except FieldError α} {a : α} :
    (liftM x : Except DecodeError α) = .ok a ↔ x = .ok a :=
  mapError_eq_ok_iff

/-- A draft, lifted into the reader of an entry, gives a value exactly if the draft does. -/
theorem lift_entity_eq_ok_iff {α : Type} {x : Except EntityError α} {a : α} :
    (liftM x : Except DecodeError α) = .ok a ↔ x = .ok a :=
  mapError_eq_ok_iff

/-- The check of a match key, lifted into the reader of an entry, gives a value exactly if the check
does. -/
theorem lift_matchKey_eq_ok_iff {α : Type} {x : Except Pipeline.MatchKeyError α} {a : α} :
    (liftM x : Except DecodeError α) = .ok a ↔ x = .ok a :=
  mapError_eq_ok_iff

end DecodeError

namespace Decoding

open DecodeError

variable {key : MatchKey} {a : Action}

/-- Two numbers of the source interface stand for a role. -/
theorem roleOf_eq_ok_iff {side : UInt8} {s : Interface.Setting} :
    roleOf side = .ok s ↔ (side = 1 ∧ s = .access) ∨ (side = 2 ∧ s = .core) := by
  rw [roleOf, Pipeline.accessSide, Pipeline.coreSide]
  by_cases haccess : side = 1
  · rw [if_pos haccess, Except.ok.injEq]
    constructor
    · rintro rfl
      exact Or.inl ⟨haccess, rfl⟩
    · rintro (⟨-, rfl⟩ | ⟨hcore, -⟩)
      · rfl
      · rw [haccess] at hcore
        exact absurd hcore (by decide)
  · rw [if_neg haccess]
    by_cases hcore : side = 2
    · rw [if_pos hcore, Except.ok.injEq]
      constructor
      · rintro rfl
        exact Or.inr ⟨hcore, rfl⟩
      · rintro (⟨h, -⟩ | ⟨-, rfl⟩)
        · exact absurd h haccess
        · rfl
    · rw [if_neg hcore]
      constructor
      · intro h
        cases h
      · rintro (⟨h, -⟩ | ⟨h, -⟩)
        · exact absurd h haccess
        · exact absurd h hcore

/-- An interface is read exactly if it is told. -/
theorem interface_eq_ok_iff {i : Interface} :
    Decoding.interface key a = .ok i ↔ i.ToldBy key a := by
  simp only [Decoding.interface, bind_eq_ok_iff, lift_field_eq_ok_iff, lift_entity_eq_ok_iff,
    Action.byteOf_eq_ok_iff, MatchKey.prefixOf_eq_ok_iff, roleOf_eq_ok_iff]
  constructor
  · rintro ⟨side, hside, setting, ⟨rfl, rfl⟩ | ⟨rfl, rfl⟩, network, hnetwork, hbuild⟩
    · cases Except.ok.inj hbuild
      exact ⟨hnetwork, Or.inl ⟨rfl, hside⟩, rfl⟩
    · cases Except.ok.inj hbuild
      exact ⟨hnetwork, Or.inr ⟨rfl, hside⟩, rfl⟩
  · obtain ⟨network, role, slice⟩ := i
    rintro ⟨hnetwork, ⟨rfl, hside⟩ | ⟨rfl, hside⟩, rfl⟩
    · exact ⟨1, hside, .access, Or.inl ⟨rfl, rfl⟩, network, hnetwork, rfl⟩
    · exact ⟨2, hside, .core, Or.inr ⟨rfl, rfl⟩, network, hnetwork, rfl⟩

/-- An uplink session is read exactly if it is told. -/
theorem uplinkSession_eq_ok_iff {s : UplinkSession} :
    Decoding.uplinkSession key a = .ok s ↔ s.ToldBy key a := by
  simp only [Decoding.uplinkSession, bind_eq_ok_iff, lift_field_eq_ok_iff, lift_entity_eq_ok_iff,
    MatchKey.addressOf_eq_ok_iff, MatchKey.wordOf_eq_ok_iff]
  constructor
  · rintro ⟨tunnelDestination, hdestination, teid, hteid, hbuild⟩
    cases Except.ok.inj hbuild
    exact ⟨hdestination, hteid, beq_iff_eq⟩
  · obtain ⟨tunnelDestination, teid, drops⟩ := s
    rintro ⟨hdestination, hteid, hdrops⟩
    have heq : (a.id == ActionId.dropUplinkSession) = drops := by
      rw [Bool.eq_iff_iff, beq_iff_eq, hdrops]
    exact ⟨tunnelDestination, hdestination, teid, hteid, by rw [heq]; rfl⟩

/-- The action of a downlink session is one of three, and it alone says what becomes of packets. -/
theorem downlinkBehaviour_eq_ok_iff (ha : a.id ∈ Pipeline.downlinkSessions.actions)
    {b : DownlinkSession.Setting} :
    downlinkBehaviour a = .ok b ↔
      (a.id = .dropDownlinkSession ∧ b = .drops true) ∨
      (a.id = .bufferDownlinkSession ∧ b = .buffers true) ∨
      (a.id = .setDownlinkSession ∧
        ∃ peer : UInt8, a.TellsNumber .tunnelPeer peer.toNat ∧ b = .tunnelPeer peer) := by
  rw [downlinkBehaviour]
  rcases Pipeline.mem_actions_downlinkSessions.mp ha with hid | hid | hid
  · rw [hid, if_neg (by decide), if_neg (by decide)]
    simp only [bind_eq_ok_iff, lift_field_eq_ok_iff, pure_eq_ok_iff, Action.byteOf_eq_ok_iff]
    simp +decide
  · rw [hid, if_pos rfl, pure_eq_ok_iff]
    simp +decide
  · rw [hid, if_neg (by decide), if_pos rfl, pure_eq_ok_iff]
    simp +decide

/-- A downlink session is read exactly if it is told. -/
theorem downlinkSession_eq_ok_iff (ha : a.id ∈ Pipeline.downlinkSessions.actions)
    {s : DownlinkSession} : Decoding.downlinkSession key a = .ok s ↔ s.ToldBy key a := by
  simp only [Decoding.downlinkSession, bind_eq_ok_iff, lift_field_eq_ok_iff,
    lift_entity_eq_ok_iff, MatchKey.addressOf_eq_ok_iff, downlinkBehaviour_eq_ok_iff ha]
  constructor
  · rintro ⟨ue, hue, b, ⟨hid, rfl⟩ | ⟨hid, rfl⟩ | ⟨hid, peer, hpeer, rfl⟩, hbuild⟩
    · obtain rfl : (⟨ue, none, true, false⟩ : DownlinkSession) = s := Except.ok.inj hbuild
      exact ⟨hue, by simp +decide [hid], by simp [hid], by simp +decide [hid]⟩
    · obtain rfl : (⟨ue, none, false, true⟩ : DownlinkSession) = s := Except.ok.inj hbuild
      exact ⟨hue, by simp +decide [hid], by simp +decide [hid], by simp [hid]⟩
    · obtain rfl : (⟨ue, some peer, false, false⟩ : DownlinkSession) = s := Except.ok.inj hbuild
      exact ⟨hue, ⟨hid, hpeer⟩, by simp +decide [hid], by simp +decide [hid]⟩
  · intro h
    refine ⟨s.ueAddress, h.ueAddress, ?_⟩
    rcases h.behaviour ha with ⟨hid, peer, hpeer, hs⟩ | ⟨hid, hs⟩ | ⟨hid, hs⟩
    · exact ⟨.tunnelPeer peer, Or.inr (Or.inr ⟨hid, peer, hpeer, rfl⟩),
        congrArg Except.ok hs.symm⟩
    · exact ⟨.drops true, Or.inl ⟨hid, rfl⟩, congrArg Except.ok hs.symm⟩
    · exact ⟨.buffers true, Or.inr (Or.inl ⟨hid, rfl⟩), congrArg Except.ok hs.symm⟩

/-- The action of an uplink termination drops, forwards in a class, or forwards without one. -/
theorem uplinkBehaviour_eq_ok_iff {settings : List UplinkTermination.Setting} :
    uplinkBehaviour a = .ok settings ↔
      (a.id = .dropUplink ∧ settings = [.drops true]) ∨
      (a.id = .forwardUplink ∧
        ∃ tc : UInt8, a.TellsNumber .trafficClass tc.toNat ∧ settings = [.trafficClass tc]) ∨
      (a.id ≠ .dropUplink ∧ a.id ≠ .forwardUplink ∧ settings = []) := by
  rw [uplinkBehaviour]
  by_cases hdrop : a.id = .dropUplink
  · rw [if_pos hdrop, pure_eq_ok_iff]
    simp +decide [hdrop]
  · by_cases hforward : a.id = .forwardUplink
    · rw [if_neg hdrop, if_pos hforward]
      simp only [bind_eq_ok_iff, lift_field_eq_ok_iff, pure_eq_ok_iff, Action.byteOf_eq_ok_iff]
      simp +decide [hforward]
    · rw [if_neg hdrop, if_neg hforward, pure_eq_ok_iff]
      simp [hdrop, hforward]

/-- An uplink termination is read exactly if it is told. -/
theorem uplinkTermination_eq_ok_iff {t : UplinkTermination} :
    Decoding.uplinkTermination key a = .ok t ↔ t.ToldBy key a := by
  simp only [Decoding.uplinkTermination, bind_eq_ok_iff, lift_field_eq_ok_iff,
    lift_entity_eq_ok_iff, MatchKey.addressOf_eq_ok_iff, MatchKey.byteOf_eq_ok_iff,
    Action.wordOf_eq_ok_iff, uplinkBehaviour_eq_ok_iff]
  constructor
  · rintro ⟨ue, hue, app, happ, counter, hcounter, settings, hsettings, hbuild⟩
    rcases hsettings with ⟨hid, rfl⟩ | ⟨hid, tc, htc, rfl⟩ | ⟨hdrop, hforward, rfl⟩
    · obtain rfl : (⟨ue, app, counter, none, true⟩ : UplinkTermination) = t :=
        Except.ok.inj hbuild
      exact ⟨hue, happ, hcounter, by simp +decide [hid], by simp [hid]⟩
    · obtain rfl : (⟨ue, app, counter, some tc, false⟩ : UplinkTermination) = t :=
        Except.ok.inj hbuild
      exact ⟨hue, happ, hcounter, ⟨hid, htc⟩, by simp +decide [hid]⟩
    · obtain rfl : (⟨ue, app, counter, none, false⟩ : UplinkTermination) = t :=
        Except.ok.inj hbuild
      exact ⟨hue, happ, hcounter, hforward, by simp [hdrop]⟩
  · -- the reader asks for two of the three names, so the third case is that it is neither
    obtain ⟨ue, app, counter, tc, drops⟩ := t
    rintro ⟨hue, happ, hcounter, htc, hdrops⟩
    refine ⟨ue, hue, app, happ, counter, hcounter, ?_⟩
    by_cases hdrop : a.id = .dropUplink
    · obtain rfl := htc.eq_none (by rw [hdrop]; decide)
      obtain rfl : drops = true := hdrops.mpr hdrop
      exact ⟨[.drops true], Or.inl ⟨hdrop, rfl⟩, rfl⟩
    · obtain rfl : drops = false := Bool.eq_false_iff.mpr (mt hdrops.mp hdrop)
      by_cases hforward : a.id = .forwardUplink
      · obtain ⟨c, rfl, hc⟩ := htc.exists_some hforward
        exact ⟨[.trafficClass c], Or.inr (Or.inl ⟨hforward, c, hc, rfl⟩), rfl⟩
      · obtain rfl := htc.eq_none hforward
        exact ⟨[], Or.inr (Or.inr ⟨hdrop, hforward, rfl⟩), rfl⟩

/-- The action of a downlink termination drops, or forwards through a tunnel with or without a
class. -/
theorem downlinkForwarding_eq_ok_iff (ha : a.id ∈ Pipeline.downlinkTerminations.actions)
    {settings : List DownlinkTermination.Setting} :
    downlinkForwarding a = .ok settings ↔
      (a.id = .dropDownlink ∧ settings = [.drops true]) ∨
      (a.id.ForwardsDownlink ∧ ∃ teid : UInt32, a.TellsNumber .teid teid.toNat ∧
        ∃ qfi : UInt8, a.TellsNumber .qfi qfi.toNat ∧
          ((a.id = .forwardDownlink ∧ ∃ tc : UInt8, a.TellsNumber .trafficClass tc.toNat ∧
              settings = [.teid teid, .qfi qfi, .trafficClass tc]) ∨
            (a.id = .forwardDownlinkUnclassified ∧ settings = [.teid teid, .qfi qfi]))) := by
  -- the tunnel is read before the reader asks whether there is a class, so both go together
  rw [downlinkForwarding]
  rcases Pipeline.mem_actions_downlinkTerminations.mp ha with hid | hid | hid
  · rw [hid, if_neg (by decide)]
    simp only [bind_eq_ok_iff, lift_field_eq_ok_iff, pure_eq_ok_iff, Action.byteOf_eq_ok_iff,
      Action.wordOf_eq_ok_iff, if_true]
    simp +decide [ActionId.ForwardsDownlink]
  · have hunclassified : ActionId.forwardDownlinkUnclassified ≠ .forwardDownlink := by decide
    rw [hid, if_neg (by decide)]
    simp only [bind_eq_ok_iff, lift_field_eq_ok_iff, pure_eq_ok_iff, Action.byteOf_eq_ok_iff,
      Action.wordOf_eq_ok_iff, if_neg hunclassified]
    simp +decide [ActionId.ForwardsDownlink]
  · rw [hid, if_pos rfl, pure_eq_ok_iff]
    simp +decide [ActionId.ForwardsDownlink]

/-- A downlink termination is read exactly if it is told. -/
theorem downlinkTermination_eq_ok_iff (ha : a.id ∈ Pipeline.downlinkTerminations.actions)
    {t : DownlinkTermination} :
    Decoding.downlinkTermination key a = .ok t ↔ t.ToldBy key a := by
  simp only [Decoding.downlinkTermination, bind_eq_ok_iff, lift_field_eq_ok_iff,
    lift_entity_eq_ok_iff, MatchKey.addressOf_eq_ok_iff, MatchKey.byteOf_eq_ok_iff,
    Action.wordOf_eq_ok_iff, downlinkForwarding_eq_ok_iff ha]
  constructor
  · rintro ⟨ue, hue, app, happ, counter, hcounter, settings, hsettings, hbuild⟩
    rcases hsettings with ⟨hid, rfl⟩ | ⟨hforwards, teid, hteid, qfi, hqfi, hclass⟩
    · have hstays : ¬a.id.ForwardsDownlink := ActionId.not_forwardsDownlink_of_drop hid
      obtain rfl : (⟨ue, app, counter, none, none, none, true⟩ : DownlinkTermination) = t :=
        Except.ok.inj hbuild
      exact ⟨hue, happ, hcounter, hstays, hstays, by simp +decide [hid], by simp [hid]⟩
    · rcases hclass with ⟨hid, tc, htc, rfl⟩ | ⟨hid, rfl⟩
      · obtain rfl : (⟨ue, app, counter, some teid, some qfi, some tc, false⟩ :
            DownlinkTermination) = t := Except.ok.inj hbuild
        exact ⟨hue, happ, hcounter, ⟨hforwards, hteid⟩, ⟨hforwards, hqfi⟩, ⟨hid, htc⟩,
          by simp +decide [hid]⟩
      · obtain rfl : (⟨ue, app, counter, some teid, some qfi, none, false⟩ :
            DownlinkTermination) = t := Except.ok.inj hbuild
        exact ⟨hue, happ, hcounter, ⟨hforwards, hteid⟩, ⟨hforwards, hqfi⟩,
          by simp +decide [hid], by simp +decide [hid]⟩
  · obtain ⟨ue, app, counter, teid, qfi, tc, drops⟩ := t
    rintro ⟨hue, happ, hcounter, hteid, hqfi, htc, hdrops⟩
    have hkeeps : a.id ≠ .dropDownlink → drops = false := by
      intro hne
      exact Bool.eq_false_iff.mpr (mt hdrops.mp hne)
    refine ⟨ue, hue, app, happ, counter, hcounter, ?_⟩
    rcases Pipeline.mem_actions_downlinkTerminations.mp ha with hid | hid | hid
    · have hforwards : a.id.ForwardsDownlink := Or.inl hid
      obtain ⟨n, rfl, hn⟩ := hteid.exists_some hforwards
      obtain ⟨q, rfl, hq⟩ := hqfi.exists_some hforwards
      obtain ⟨c, rfl, hc⟩ := htc.exists_some hid
      obtain rfl : drops = false := hkeeps (by rw [hid]; decide)
      exact ⟨[.teid n, .qfi q, .trafficClass c],
        Or.inr ⟨hforwards, n, hn, q, hq, Or.inl ⟨hid, c, hc, rfl⟩⟩, rfl⟩
    · have hforwards : a.id.ForwardsDownlink := Or.inr hid
      obtain ⟨n, rfl, hn⟩ := hteid.exists_some hforwards
      obtain ⟨q, rfl, hq⟩ := hqfi.exists_some hforwards
      obtain rfl := htc.eq_none (by rw [hid]; decide)
      obtain rfl : drops = false := hkeeps (by rw [hid]; decide)
      exact ⟨[.teid n, .qfi q],
        Or.inr ⟨hforwards, n, hn, q, hq, Or.inr ⟨hid, rfl⟩⟩, rfl⟩
    · have hstays : ¬a.id.ForwardsDownlink := ActionId.not_forwardsDownlink_of_drop hid
      obtain rfl := hteid.eq_none hstays
      obtain rfl := hqfi.eq_none hstays
      obtain rfl := htc.eq_none (by rw [hid]; decide)
      obtain rfl : drops = true := hdrops.mpr hid
      exact ⟨[.drops true], Or.inl ⟨hid, rfl⟩, rfl⟩

/-- A tunnel peer is read exactly if it is told. -/
theorem tunnelPeer_eq_ok_iff {p : TunnelPeer} :
    Decoding.tunnelPeer key a = .ok p ↔ p.ToldBy key a := by
  simp only [Decoding.tunnelPeer, bind_eq_ok_iff, lift_field_eq_ok_iff, lift_entity_eq_ok_iff,
    MatchKey.byteOf_eq_ok_iff, Action.addressOf_eq_ok_iff, Action.portOf_eq_ok_iff]
  constructor
  · rintro ⟨id, hid, source, hsource, destination, hdestination, port, hport, hbuild⟩
    obtain rfl : (⟨id, source, destination, port⟩ : TunnelPeer) = p := Except.ok.inj hbuild
    exact ⟨hid, hsource, hdestination, hport⟩
  · obtain ⟨id, source, destination, port⟩ := p
    rintro ⟨hid, hsource, hdestination, hport⟩
    exact ⟨id, hid, source, hsource, destination, hdestination, port, hport, rfl⟩

/-- A part of a filter that is read if it is present is told if it is present. -/
theorem ifPresent_eq_ok_iff {α : Type} {field : FieldId}
    {read : MatchKey → FieldId → Except FieldError α} {say : α → Application.Setting}
    {Tells : α → Prop} (hread : ∀ {x}, read key field = .ok x ↔ Tells x)
    {settings : List Application.Setting} :
    ifPresent key field read say = .ok settings ↔
      ∃ value, ToldWhen (key.contains field) Tells value ∧ settings = value.toList.map say := by
  rw [ifPresent]
  by_cases hpresent : key.contains field
  · rw [if_pos hpresent]
    constructor
    · intro h
      obtain ⟨x, hx, rfl⟩ := map_eq_ok_iff.mp h
      exact ⟨some x, ⟨hpresent, hread.mp hx⟩, rfl⟩
    · rintro ⟨value, hvalue, rfl⟩
      obtain ⟨x, rfl, hx⟩ := hvalue.exists_some hpresent
      exact map_eq_ok_iff.mpr ⟨x, hread.mpr hx, rfl⟩
  · rw [if_neg hpresent, Except.ok.injEq]
    constructor
    · rintro rfl
      exact ⟨none, hpresent, rfl⟩
    · rintro ⟨value, hvalue, rfl⟩
      rw [hvalue.eq_none hpresent]
      rfl

/-- An application is read exactly if it is told. -/
theorem application_eq_ok_iff {entry : TableEntry} {app : Application} :
    Decoding.application entry a = .ok app ↔ app.ToldBy entry a := by
  simp only [Decoding.application, bind_eq_ok_iff, lift_field_eq_ok_iff, lift_entity_eq_ok_iff,
    Action.byteOf_eq_ok_iff, TableEntry.requirePriority_eq_ok_iff,
    ifPresent_eq_ok_iff MatchKey.prefixOf_eq_ok_iff, ifPresent_eq_ok_iff MatchKey.portsOf_eq_ok_iff,
    ifPresent_eq_ok_iff MatchKey.maskedByteOf_eq_ok_iff]
  constructor
  · rintro ⟨id, hid, priority, hpriority, _, ⟨network, hnetwork, rfl⟩, _, ⟨ports, hports, rfl⟩,
      _, ⟨protocol, hprotocol, rfl⟩, hbuild⟩
    have hdraft := Application.build_settings ⟨id, priority, network, ports, protocol, mobileSlice⟩
    obtain ⟨-, -, rfl⟩ := map_eq_ok_iff.mp (hdraft.symm.trans hbuild)
    exact ⟨hid, hpriority, hnetwork, hports, hprotocol, rfl⟩
  · intro h
    -- ports that are told hold one, so drafting the application cannot fail
    have hcheck : Application.checkPorts app.ports = .ok () :=
      Application.checkPorts_eq_ok_iff.mpr h.low_le_high
    have hdraft := app.build_settings
    rw [hcheck, Application.settings, show app.slice = mobileSlice from h.slice] at hdraft
    exact ⟨app.id, h.id, app.priority, h.priority, _, ⟨app.network, h.network, rfl⟩,
      _, ⟨app.ports, h.ports, rfl⟩, _, ⟨app.protocol, h.protocol, rfl⟩, hdraft⟩

end Decoding

end UserPlane
