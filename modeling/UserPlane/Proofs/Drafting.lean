import UserPlane.Proofs.Drafting.Form

/-! # Entities as they are drafted

Each of the seven kinds of entities that are drafted has a **form** (`Interface.form` and so on),
which lists its fields, the field that each statement is about, the fields that must be given a
value, in order, and what stands in the others otherwise: an optional field stays empty, a flag is
off, the slice is the only one there is, and the role of an interface is unknown. Several statements
can be about one field, as those on the side of an interface are. Only applications have a range of
ports.

A draft holds what stands in the fields of the form (`Draft.fields`), and finishing it is a matter
of these contents (`Draft.settles`). So **what is built follows the form**, for every kind and
whatever is said in whatever order (`drafts_follow_forms`). -/

namespace UserPlane

/-! ## Interfaces -/

namespace Interface

/-- The fields of an interface. -/
inductive Field where
  | network
  | role
  | slice

/-- What can stand in a field of an interface. -/
abbrev Field.Value : Field → Type
  | network => Prefix
  | role => InterfaceRole
  | slice => UInt8

/-- The value that a statement gives a field; that an interface is on some side is its role. -/
def Setting.gives : Setting → (f : Field) → Option f.Value
  | .network p, .network => some p
  | .role r, .role => some r
  | .access, .role => some .access
  | .core, .role => some .core
  | .bufferReceiver, .role => some .buffering
  | .slice s, .slice => some s
  | _, _ => none

/-- What stands in the fields of an interface. -/
def fields (i : Interface) : (f : Field) → Option f.Value
  | .network => some i.network
  | .role => some i.role
  | .slice => some i.slice

/-- An interface is told by its fields. -/
theorem fields_injective : Function.Injective fields := by
  rintro ⟨network, role, slice⟩ ⟨network', role', slice'⟩ h
  obtain rfl : network = network' := Option.some.inj (congrFun h .network)
  obtain rfl : role = role' := Option.some.inj (congrFun h .role)
  obtain rfl : slice = slice' := Option.some.inj (congrFun h .slice)
  rfl

/-- The form of interfaces. -/
def form : Form Setting Interface where
  kind := .interface
  Field := Field
  Value := Field.Value
  gives := Setting.gives
  required := [(.network, "prefix")]
  usual
    | .network => none
    | .role => some .unknown
    | .slice => some 0
  ports? _ := none
  fields := fields
  usual_required := by decide
  ports?_usual _ := rfl
  fields_injective := fields_injective

/-- What stands in the fields of an interface in the making. -/
def Draft.fields (d : Draft) : (f : Field) → Option f.Value
  | .network => d.network
  | .role => some d.role
  | .slice => some d.slice

/-- An interface in the making is finished as its form settles. -/
theorem Draft.settles : ∀ d : Draft, form.Settles d.fields d.finish
  | ⟨none, _, _⟩ => .missing rfl
  | ⟨some _, _, _⟩ => .complete rfl (by rintro _ ⟨⟩) (by funext f; cases f <;> rfl)

/-- Interfaces are built by their form. -/
theorem follows_form : form.Follows build := by
  refine Form.follows_of_settles Draft.fields ?_ ?_ Draft.settles
  · intro f
    cases f <;> rfl
  · intro d s f
    cases s <;> cases f <;> rfl

end Interface

/-! ## Sessions -/

namespace UplinkSession

/-- The fields of an uplink session. -/
inductive Field where
  | tunnelDestination
  | teid
  | drops

/-- What can stand in a field of an uplink session. -/
abbrev Field.Value : Field → Type
  | tunnelDestination => Address
  | teid => UInt32
  | drops => Bool

/-- The value that a statement gives a field. -/
def Setting.gives : Setting → (f : Field) → Option f.Value
  | .tunnelDestination a, .tunnelDestination => some a
  | .teid n, .teid => some n
  | .drops b, .drops => some b
  | _, _ => none

/-- What stands in the fields of an uplink session. -/
def fields (s : UplinkSession) : (f : Field) → Option f.Value
  | .tunnelDestination => some s.tunnelDestination
  | .teid => some s.teid
  | .drops => some s.drops

/-- An uplink session is told by its fields. -/
theorem fields_injective : Function.Injective fields := by
  rintro ⟨destination, teid, drops⟩ ⟨destination', teid', drops'⟩ h
  obtain rfl : destination = destination' := Option.some.inj (congrFun h .tunnelDestination)
  obtain rfl : teid = teid' := Option.some.inj (congrFun h .teid)
  obtain rfl : drops = drops' := Option.some.inj (congrFun h .drops)
  rfl

/-- The form of uplink sessions. -/
def form : Form Setting UplinkSession where
  kind := .uplinkSession
  Field := Field
  Value := Field.Value
  gives := Setting.gives
  required := [(.tunnelDestination, "tun_dst_addr"), (.teid, "teid")]
  usual
    | .tunnelDestination => none
    | .teid => none
    | .drops => some false
  ports? _ := none
  fields := fields
  usual_required := by decide
  ports?_usual _ := rfl
  fields_injective := fields_injective

/-- What stands in the fields of an uplink session in the making. -/
def Draft.fields (d : Draft) : (f : Field) → Option f.Value
  | .tunnelDestination => d.tunnelDestination
  | .teid => d.teid
  | .drops => some d.drops

/-- An uplink session in the making is finished as its form settles. -/
theorem Draft.settles : ∀ d : Draft, form.Settles d.fields d.finish
  | ⟨none, _, _⟩ => .missing rfl
  | ⟨some _, none, _⟩ => .missing rfl
  | ⟨some _, some _, _⟩ => .complete rfl (by rintro _ ⟨⟩) (by funext f; cases f <;> rfl)

/-- Uplink sessions are built by their form. -/
theorem follows_form : form.Follows build := by
  refine Form.follows_of_settles Draft.fields ?_ ?_ Draft.settles
  · intro f
    cases f <;> rfl
  · intro d s f
    cases s <;> cases f <;> rfl

end UplinkSession

namespace DownlinkSession

/-- The fields of a downlink session. -/
inductive Field where
  | ueAddress
  | tunnelPeer
  | drops
  | buffers

/-- What can stand in a field of a downlink session. -/
abbrev Field.Value : Field → Type
  | ueAddress => Address
  | tunnelPeer => UInt8
  | drops => Bool
  | buffers => Bool

/-- The value that a statement gives a field. -/
def Setting.gives : Setting → (f : Field) → Option f.Value
  | .ueAddress a, .ueAddress => some a
  | .tunnelPeer n, .tunnelPeer => some n
  | .drops b, .drops => some b
  | .buffers b, .buffers => some b
  | _, _ => none

/-- What stands in the fields of a downlink session. -/
def fields (s : DownlinkSession) : (f : Field) → Option f.Value
  | .ueAddress => some s.ueAddress
  | .tunnelPeer => s.tunnelPeer
  | .drops => some s.drops
  | .buffers => some s.buffers

/-- A downlink session is told by its fields. -/
theorem fields_injective : Function.Injective fields := by
  rintro ⟨ue, peer, drops, buffers⟩ ⟨ue', peer', drops', buffers'⟩ h
  obtain rfl : ue = ue' := Option.some.inj (congrFun h .ueAddress)
  obtain rfl : peer = peer' := congrFun h .tunnelPeer
  obtain rfl : drops = drops' := Option.some.inj (congrFun h .drops)
  obtain rfl : buffers = buffers' := Option.some.inj (congrFun h .buffers)
  rfl

/-- The form of downlink sessions. -/
def form : Form Setting DownlinkSession where
  kind := .downlinkSession
  Field := Field
  Value := Field.Value
  gives := Setting.gives
  required := [(.ueAddress, "ue_address")]
  usual
    | .ueAddress => none
    | .tunnelPeer => none
    | .drops => some false
    | .buffers => some false
  ports? _ := none
  fields := fields
  usual_required := by decide
  ports?_usual _ := rfl
  fields_injective := fields_injective

/-- What stands in the fields of a downlink session in the making. -/
def Draft.fields (d : Draft) : (f : Field) → Option f.Value
  | .ueAddress => d.ueAddress
  | .tunnelPeer => d.tunnelPeer
  | .drops => some d.drops
  | .buffers => some d.buffers

/-- A downlink session in the making is finished as its form settles. -/
theorem Draft.settles : ∀ d : Draft, form.Settles d.fields d.finish
  | ⟨none, _, _, _⟩ => .missing rfl
  | ⟨some _, _, _, _⟩ => .complete rfl (by rintro _ ⟨⟩) (by funext f; cases f <;> rfl)

/-- Downlink sessions are built by their form. -/
theorem follows_form : form.Follows build := by
  refine Form.follows_of_settles Draft.fields ?_ ?_ Draft.settles
  · intro f
    cases f <;> rfl
  · intro d s f
    cases s <;> cases f <;> rfl

end DownlinkSession

/-! ## Terminations -/

namespace UplinkTermination

/-- The fields of an uplink termination. -/
inductive Field where
  | ueAddress
  | application
  | counter
  | trafficClass
  | drops

/-- What can stand in a field of an uplink termination. -/
abbrev Field.Value : Field → Type
  | ueAddress => Address
  | application => UInt8
  | counter => UInt32
  | trafficClass => UInt8
  | drops => Bool

/-- The value that a statement gives a field. -/
def Setting.gives : Setting → (f : Field) → Option f.Value
  | .ueAddress a, .ueAddress => some a
  | .application n, .application => some n
  | .counter n, .counter => some n
  | .trafficClass c, .trafficClass => some c
  | .drops b, .drops => some b
  | _, _ => none

/-- What stands in the fields of an uplink termination. -/
def fields (t : UplinkTermination) : (f : Field) → Option f.Value
  | .ueAddress => some t.ueAddress
  | .application => some t.application
  | .counter => some t.counter
  | .trafficClass => t.trafficClass
  | .drops => some t.drops

/-- An uplink termination is told by its fields. -/
theorem fields_injective : Function.Injective fields := by
  rintro ⟨ue, application, counter, tc, drops⟩ ⟨ue', application', counter', tc', drops'⟩ h
  obtain rfl : ue = ue' := Option.some.inj (congrFun h .ueAddress)
  obtain rfl : application = application' := Option.some.inj (congrFun h .application)
  obtain rfl : counter = counter' := Option.some.inj (congrFun h .counter)
  obtain rfl : tc = tc' := congrFun h .trafficClass
  obtain rfl : drops = drops' := Option.some.inj (congrFun h .drops)
  rfl

/-- The form of uplink terminations. -/
def form : Form Setting UplinkTermination where
  kind := .uplinkTermination
  Field := Field
  Value := Field.Value
  gives := Setting.gives
  required :=
    [(.ueAddress, "ue_session_id"), (.application, "application_id"), (.counter, "counter_id")]
  usual
    | .ueAddress => none
    | .application => none
    | .counter => none
    | .trafficClass => none
    | .drops => some false
  ports? _ := none
  fields := fields
  usual_required := by decide
  ports?_usual _ := rfl
  fields_injective := fields_injective

/-- What stands in the fields of an uplink termination in the making. -/
def Draft.fields (d : Draft) : (f : Field) → Option f.Value
  | .ueAddress => d.ueAddress
  | .application => d.application
  | .counter => d.counter
  | .trafficClass => d.trafficClass
  | .drops => some d.drops

/-- An uplink termination in the making is finished as its form settles. -/
theorem Draft.settles : ∀ d : Draft, form.Settles d.fields d.finish
  | ⟨none, _, _, _, _⟩ => .missing rfl
  | ⟨some _, none, _, _, _⟩ => .missing rfl
  | ⟨some _, some _, none, _, _⟩ => .missing rfl
  | ⟨some _, some _, some _, _, _⟩ =>
    .complete rfl (by rintro _ ⟨⟩) (by funext f; cases f <;> rfl)

/-- Uplink terminations are built by their form. -/
theorem follows_form : form.Follows build := by
  refine Form.follows_of_settles Draft.fields ?_ ?_ Draft.settles
  · intro f
    cases f <;> rfl
  · intro d s f
    cases s <;> cases f <;> rfl

end UplinkTermination

namespace DownlinkTermination

/-- The fields of a downlink termination. -/
inductive Field where
  | ueAddress
  | application
  | counter
  | teid
  | qfi
  | trafficClass
  | drops

/-- What can stand in a field of a downlink termination. -/
abbrev Field.Value : Field → Type
  | ueAddress => Address
  | application => UInt8
  | counter => UInt32
  | teid => UInt32
  | qfi => UInt8
  | trafficClass => UInt8
  | drops => Bool

/-- The value that a statement gives a field. -/
def Setting.gives : Setting → (f : Field) → Option f.Value
  | .ueAddress a, .ueAddress => some a
  | .application n, .application => some n
  | .counter n, .counter => some n
  | .teid n, .teid => some n
  | .qfi n, .qfi => some n
  | .trafficClass c, .trafficClass => some c
  | .drops b, .drops => some b
  | _, _ => none

/-- What stands in the fields of a downlink termination. -/
def fields (t : DownlinkTermination) : (f : Field) → Option f.Value
  | .ueAddress => some t.ueAddress
  | .application => some t.application
  | .counter => some t.counter
  | .teid => t.teid
  | .qfi => t.qfi
  | .trafficClass => t.trafficClass
  | .drops => some t.drops

/-- A downlink termination is told by its fields. -/
theorem fields_injective : Function.Injective fields := by
  rintro ⟨ue, application, counter, teid, qfi, tc, drops⟩
    ⟨ue', application', counter', teid', qfi', tc', drops'⟩ h
  obtain rfl : ue = ue' := Option.some.inj (congrFun h .ueAddress)
  obtain rfl : application = application' := Option.some.inj (congrFun h .application)
  obtain rfl : counter = counter' := Option.some.inj (congrFun h .counter)
  obtain rfl : teid = teid' := congrFun h .teid
  obtain rfl : qfi = qfi' := congrFun h .qfi
  obtain rfl : tc = tc' := congrFun h .trafficClass
  obtain rfl : drops = drops' := Option.some.inj (congrFun h .drops)
  rfl

/-- The form of downlink terminations. -/
def form : Form Setting DownlinkTermination where
  kind := .downlinkTermination
  Field := Field
  Value := Field.Value
  gives := Setting.gives
  required :=
    [(.ueAddress, "ue_session_id"), (.application, "application_id"), (.counter, "counter_id")]
  usual
    | .ueAddress => none
    | .application => none
    | .counter => none
    | .teid => none
    | .qfi => none
    | .trafficClass => none
    | .drops => some false
  ports? _ := none
  fields := fields
  usual_required := by decide
  ports?_usual _ := rfl
  fields_injective := fields_injective

/-- What stands in the fields of a downlink termination in the making. -/
def Draft.fields (d : Draft) : (f : Field) → Option f.Value
  | .ueAddress => d.ueAddress
  | .application => d.application
  | .counter => d.counter
  | .teid => d.teid
  | .qfi => d.qfi
  | .trafficClass => d.trafficClass
  | .drops => some d.drops

/-- A downlink termination in the making is finished as its form settles. -/
theorem Draft.settles : ∀ d : Draft, form.Settles d.fields d.finish
  | ⟨none, _, _, _, _, _, _⟩ => .missing rfl
  | ⟨some _, none, _, _, _, _, _⟩ => .missing rfl
  | ⟨some _, some _, none, _, _, _, _⟩ => .missing rfl
  | ⟨some _, some _, some _, _, _, _, _⟩ =>
    .complete rfl (by rintro _ ⟨⟩) (by funext f; cases f <;> rfl)

/-- Downlink terminations are built by their form. -/
theorem follows_form : form.Follows build := by
  refine Form.follows_of_settles Draft.fields ?_ ?_ Draft.settles
  · intro f
    cases f <;> rfl
  · intro d s f
    cases s <;> cases f <;> rfl

end DownlinkTermination

/-! ## Tunnel peers -/

namespace TunnelPeer

/-- The fields of a tunnel peer. -/
inductive Field where
  | id
  | source
  | destination
  | sourcePort

/-- What can stand in a field of a tunnel peer. -/
abbrev Field.Value : Field → Type
  | id => UInt8
  | source => Address
  | destination => Address
  | sourcePort => UInt16

/-- The value that a statement gives a field. -/
def Setting.gives : Setting → (f : Field) → Option f.Value
  | .id n, .id => some n
  | .source a, .source => some a
  | .destination a, .destination => some a
  | .sourcePort p, .sourcePort => some p
  | _, _ => none

/-- What stands in the fields of a tunnel peer. -/
def fields (p : TunnelPeer) : (f : Field) → Option f.Value
  | .id => some p.id
  | .source => some p.source
  | .destination => some p.destination
  | .sourcePort => some p.sourcePort

/-- A tunnel peer is told by its fields. -/
theorem fields_injective : Function.Injective fields := by
  rintro ⟨id, source, destination, port⟩ ⟨id', source', destination', port'⟩ h
  obtain rfl : id = id' := Option.some.inj (congrFun h .id)
  obtain rfl : source = source' := Option.some.inj (congrFun h .source)
  obtain rfl : destination = destination' := Option.some.inj (congrFun h .destination)
  obtain rfl : port = port' := Option.some.inj (congrFun h .sourcePort)
  rfl

/-- The form of tunnel peers. -/
def form : Form Setting TunnelPeer where
  kind := .tunnelPeer
  Field := Field
  Value := Field.Value
  gives := Setting.gives
  required :=
    [(.id, "tun_peer_id"), (.source, "src_addr"), (.destination, "dst_addr"),
      (.sourcePort, "src_port")]
  usual _ := none
  ports? _ := none
  fields := fields
  usual_required := by decide
  ports?_usual _ := rfl
  fields_injective := fields_injective

/-- What stands in the fields of a tunnel peer in the making. -/
def Draft.fields (d : Draft) : (f : Field) → Option f.Value
  | .id => d.id
  | .source => d.source
  | .destination => d.destination
  | .sourcePort => d.sourcePort

/-- A tunnel peer in the making is finished as its form settles. -/
theorem Draft.settles : ∀ d : Draft, form.Settles d.fields d.finish
  | ⟨none, _, _, _⟩ => .missing rfl
  | ⟨some _, none, _, _⟩ => .missing rfl
  | ⟨some _, some _, none, _⟩ => .missing rfl
  | ⟨some _, some _, some _, none⟩ => .missing rfl
  | ⟨some _, some _, some _, some _⟩ =>
    .complete rfl (by rintro _ ⟨⟩) (by funext f; cases f <;> rfl)

/-- Tunnel peers are built by their form. -/
theorem follows_form : form.Follows build := by
  refine Form.follows_of_settles Draft.fields ?_ ?_ Draft.settles
  · intro f
    cases f <;> rfl
  · intro d s f
    cases s <;> cases f <;> rfl

end TunnelPeer

/-! ## Applications -/

namespace Application

/-- The fields of an application. -/
inductive Field where
  | id
  | priority
  | network
  | ports
  | protocol
  | slice

/-- What can stand in a field of an application. -/
abbrev Field.Value : Field → Type
  | id => UInt8
  | priority => Int32
  | network => Prefix
  | ports => PortRange
  | protocol => UInt8
  | slice => UInt8

/-- The value that a statement gives a field. -/
def Setting.gives : Setting → (f : Field) → Option f.Value
  | .id n, .id => some n
  | .priority p, .priority => some p
  | .network p, .network => some p
  | .ports r, .ports => some r
  | .protocol p, .protocol => some p
  | .slice s, .slice => some s
  | _, _ => none

/-- What stands in the fields of an application. -/
def fields (a : Application) : (f : Field) → Option f.Value
  | .id => some a.id
  | .priority => some a.priority
  | .network => a.network
  | .ports => a.ports
  | .protocol => a.protocol
  | .slice => some a.slice

/-- An application is told by its fields. -/
theorem fields_injective : Function.Injective fields := by
  rintro ⟨id, priority, network, ports, protocol, slice⟩
    ⟨id', priority', network', ports', protocol', slice'⟩ h
  obtain rfl : id = id' := Option.some.inj (congrFun h .id)
  obtain rfl : priority = priority' := Option.some.inj (congrFun h .priority)
  obtain rfl : network = network' := congrFun h .network
  obtain rfl : ports = ports' := congrFun h .ports
  obtain rfl : protocol = protocol' := congrFun h .protocol
  obtain rfl : slice = slice' := Option.some.inj (congrFun h .slice)
  rfl

/-- The form of applications. -/
def form : Form Setting Application where
  kind := .application
  Field := Field
  Value := Field.Value
  gives := Setting.gives
  required := [(.id, "app_id"), (.priority, "priority")]
  usual
    | .id => none
    | .priority => none
    | .network => none
    | .ports => none
    | .protocol => none
    | .slice => some 0
  ports? content := content .ports
  fields := fields
  usual_required := by decide
  ports?_usual _ := Option.or_none
  fields_injective := fields_injective

/-- What stands in the fields of an application in the making. -/
def Draft.fields (d : Draft) : (f : Field) → Option f.Value
  | .id => d.id
  | .priority => d.priority
  | .network => d.network
  | .ports => d.ports
  | .protocol => d.protocol
  | .slice => some d.slice

/-- A range of ports is refused exactly if it holds none. -/
theorem checkPorts_some (r : PortRange) :
    checkPorts (some r) = if r.high < r.low then .error (.invalidPortRange r) else .ok () := by
  rw [checkPorts, PortRange.isEmpty]
  simp only [decide_eq_true_eq]

/-- An application in the making is finished as its form settles. -/
theorem Draft.settles : ∀ d : Draft, form.Settles d.fields d.finish
  | ⟨none, _, _, _, _, _⟩ => .missing rfl
  | ⟨some _, none, _, _, _, _⟩ => .missing rfl
  | ⟨some _, some _, _, none, _, _⟩ =>
    .complete rfl (by rintro _ ⟨⟩) (by funext f; cases f <;> rfl)
  | ⟨some id, some priority, network, some r, protocol, slice⟩ => by
    -- both required fields are set, and what is left to look at is the range
    show form.Settles _ (checkPorts (some r) >>= fun _ =>
      .ok ⟨id, priority, network, some r, protocol, slice⟩)
    rw [checkPorts_some]
    by_cases hempty : r.high < r.low
    · rw [if_pos hempty]
      exact .emptyRange rfl rfl hempty
    · rw [if_neg hempty]
      refine .complete rfl ?_ (by funext f; cases f <;> rfl)
      rintro _ ⟨⟩
      exact UInt16.not_lt.mp hempty

/-- Applications are built by their form. -/
theorem follows_form : form.Follows build := by
  refine Form.follows_of_settles Draft.fields ?_ ?_ Draft.settles
  · intro f
    cases f <;> rfl
  · intro d s f
    cases s <;> cases f <;> rfl

end Application

/-! ## Every kind that is drafted -/

/-- **What is built follows the form of its kind**, for every kind that is drafted and whatever is
said in whatever order and however often.

* Of the values that a field is given only the last one matters.
* If a required field was given none, the first one in the order of the entity's fields is reported.
* If there is no such field, the last range of ports that an application was given is refused
  exactly if it ends before it begins.
* Otherwise an entity is built. In each of its fields stands the last value that the field was
  given, and in one that was given none what usually does. -/
theorem drafts_follow_forms :
    Interface.form.Follows Interface.build ∧
    UplinkSession.form.Follows UplinkSession.build ∧
    DownlinkSession.form.Follows DownlinkSession.build ∧
    UplinkTermination.form.Follows UplinkTermination.build ∧
    DownlinkTermination.form.Follows DownlinkTermination.build ∧
    TunnelPeer.form.Follows TunnelPeer.build ∧
    Application.form.Follows Application.build :=
  ⟨Interface.follows_form, UplinkSession.follows_form, DownlinkSession.follows_form,
    UplinkTermination.follows_form, DownlinkTermination.follows_form, TunnelPeer.follows_form,
    Application.follows_form⟩

/-- An application that was given its number and its ports twice, at first a range without ports, is
built as if it had been given only the last of them. -/
theorem drafts_follow_forms_portsTwice :
    Application.form.last
        [.ports ⟨100, 99⟩, .id 1, .slice 3, .priority 5, .id 2, .ports ⟨80, 443⟩] =
      Application.form.last [.id 2, .priority 5, .ports ⟨80, 443⟩, .slice 3] ∧
    Application.build
        [.ports ⟨100, 99⟩, .id 1, .slice 3, .priority 5, .id 2, .ports ⟨80, 443⟩] =
      Application.build [.id 2, .priority 5, .ports ⟨80, 443⟩, .slice 3] := by
  have hlast : Application.form.last
        [.ports ⟨100, 99⟩, .id 1, .slice 3, .priority 5, .id 2, .ports ⟨80, 443⟩] =
      Application.form.last [.id 2, .priority 5, .ports ⟨80, 443⟩, .slice 3] := by
    funext f
    cases f <;> rfl
  obtain ⟨-, -, -, -, -, -, hfollows⟩ := drafts_follow_forms
  exact ⟨hlast, hfollows.eq_of_last_eq hlast⟩

/-- The order of the statements does not matter to which field is missed first. -/
example : TunnelPeer.build [.sourcePort 2152, .id 5] =
    .error (.missingField .tunnelPeer "src_addr") := rfl

end UserPlane
