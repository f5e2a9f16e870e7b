import UserPlane.Proofs.Emission
import UserPlane.Proofs.Format

/-! # What can be programmed

An entity is **encodable** if it says enough for one of the rules of emission: an interface its
side, a downlink session what becomes of its traffic, a downlink termination that does not drop its
whole tunnel, and an application ports that hold one, if it is about ports. All else is **refused**
(`Entity.Refused`), with a cause and its wording for each thing that can be missing. Every entity
has exactly one of the two outcomes (`Entity.encode_eq_ok_or_refused`); in particular nothing that
the translation puts together itself is ever refused. -/

namespace UserPlane

/-! ## Encodable entities -/

/-- An interface on a side that the pipeline tells apart. -/
def Interface.Encodable (i : Interface) : Prop := i.role = .access ∨ i.role = .core

instance (i : Interface) : Decidable i.Encodable :=
  inferInstanceAs (Decidable (_ ∨ _))

/-- A downlink session that asks for something: to drop, to buffer or to forward to a peer. -/
def DownlinkSession.Encodable (s : DownlinkSession) : Prop :=
  s.drops = true ∨ s.buffers = true ∨ s.tunnelPeer.isSome = true

instance (s : DownlinkSession) : Decidable s.Encodable :=
  inferInstanceAs (Decidable (_ ∨ _))

/-- A downlink termination that drops, or has a whole tunnel to forward through. -/
def DownlinkTermination.Encodable (t : DownlinkTermination) : Prop :=
  t.drops = true ∨ (t.teid.isSome = true ∧ t.qfi.isSome = true)

instance (t : DownlinkTermination) : Decidable t.Encodable :=
  inferInstanceAs (Decidable (_ ∨ _))

/-- An application whose ports, if it is about some, hold one. -/
def Application.Encodable (app : Application) : Prop := ∀ r ∈ app.ports, r.low ≤ r.high

instance (app : Application) : Decidable app.Encodable :=
  inferInstanceAs (Decidable (∀ r ∈ app.ports, _))

/-- An entity that says enough to be programmed. -/
def Entity.Encodable : Entity → Prop
  | interface i => i.Encodable
  | uplinkSession _ => True
  | downlinkSession s => s.Encodable
  | uplinkTermination _ => True
  | downlinkTermination t => t.Encodable
  | tunnelPeer _ => True
  | application app => app.Encodable
  | counter _ => False

instance : DecidablePred Entity.Encodable
  | .interface i => inferInstanceAs (Decidable i.Encodable)
  | .uplinkSession _ => inferInstanceAs (Decidable True)
  | .downlinkSession s => inferInstanceAs (Decidable s.Encodable)
  | .uplinkTermination _ => inferInstanceAs (Decidable True)
  | .downlinkTermination t => inferInstanceAs (Decidable t.Encodable)
  | .tunnelPeer _ => inferInstanceAs (Decidable True)
  | .application app => inferInstanceAs (Decidable app.Encodable)
  | .counter _ => inferInstanceAs (Decidable False)

/-- An application is encodable exactly if it can be drafted. -/
theorem Application.build_settings_eq_ok_iff (app : Application) :
    Application.build app.settings = .ok app ↔ app.Encodable := by
  rw [Application.build_settings, Encodable, ← checkPorts_eq_ok_iff]
  cases checkPorts app.ports with
  | ok u => exact iff_of_true rfl rfl
  | error e => exact iff_of_false nofun nofun

/-! ## Refused entities -/

/-- Why an entity is refused: what is missing, as a cause and in words. Of a tunnel, the endpoint is
asked for before the flow. -/
inductive Entity.Refused : Entity → EncodeError → String → Prop where
  /-- No table holds counters. -/
  | counter (c : Counter) :
    Refused (.counter c) .noTable "counters are not stored in a table"
  /-- The pipeline tells the access and the core side apart, and knows no other. -/
  | interface {i : Interface} (haccess : i.role ≠ .access) (hcore : i.role ≠ .core) :
    Refused (.interface i) .unsupportedRole "interface is neither access nor core"
  /-- A session that neither drops nor buffers has to say where to. -/
  | tunnelPeer {s : DownlinkSession} (hdrops : s.drops = false) (hbuffers : s.buffers = false)
      (hpeer : s.tunnelPeer = none) :
    Refused (.downlinkSession s) .missingTunnelPeer
      "forwarding downlink session requires a tunnel peer id"
  /-- A termination that does not drop has to say through which endpoint. -/
  | teid {t : DownlinkTermination} (hdrops : t.drops = false) (hteid : t.teid = none) :
    Refused (.downlinkTermination t) .missingTeid
      "forwarding downlink termination requires a TEID"
  /-- A termination that does not drop has to say in which flow. -/
  | qfi {t : DownlinkTermination} (hdrops : t.drops = false) (hteid : t.teid.isSome = true)
      (hqfi : t.qfi = none) :
    Refused (.downlinkTermination t) .missingQfi
      "forwarding downlink termination requires a QFI"
  /-- No packet has a port in an empty range. -/
  | ports {app : Application} {r : PortRange} (hports : app.ports = some r)
      (hempty : r.high < r.low) :
    Refused (.application app) (.emptyPortRange r)
      ("empty L4 port range " ++ Decimal.text r.low.toNat ++ "..=" ++ Decimal.text r.high.toNat)

namespace Entity

variable {e : Entity} {cause : EncodeError} {reason : String}

/-- An entity is refused in the words of the cause. -/
theorem Refused.message_eq (h : e.Refused cause reason) : cause.message = reason := by
  cases h with
  | _ => rfl

/-- An entity that is refused is not translated, for the cause of the refusal. -/
theorem Refused.encode_eq (h : e.Refused cause reason) :
    e.encode = .error (.entity e cause) := by
  cases h with
  | counter c => rfl
  | @interface i haccess hcore =>
    obtain ⟨network, role, slice⟩ := i
    cases role with
    | access => exact absurd rfl haccess
    | core => exact absurd rfl hcore
    | unknown => rfl
    | buffering => rfl
  | @tunnelPeer s hdrops hbuffers hpeer =>
    obtain ⟨ue, peer, drops, buffers⟩ := s
    obtain rfl : drops = false := hdrops
    obtain rfl : buffers = false := hbuffers
    obtain rfl : peer = none := hpeer
    rfl
  | @teid t hdrops hteid =>
    obtain ⟨ue, app, counter, teid, qfi, tc, drops⟩ := t
    obtain rfl : drops = false := hdrops
    obtain rfl : teid = none := hteid
    rfl
  | @qfi t hdrops hteid hqfi =>
    obtain ⟨ue, app, counter, teid, qfi, tc, drops⟩ := t
    obtain ⟨teid, rfl⟩ := Option.isSome_iff_exists.mp hteid
    obtain rfl : drops = false := hdrops
    obtain rfl : qfi = none := hqfi
    rfl
  | @ports app r hports hempty =>
    obtain ⟨id, priority, network, ports, protocol, slice⟩ := app
    obtain rfl : ports = some r := hports
    have hmatch : Encoding.portMatch (some r) = .error (.emptyPortRange r) :=
      if_pos (decide_eq_true hempty)
    rw [encode, toEntry]
    simp only [kind, Pipeline.tableFor?, Encoding.partsOf, Encoding.application, hmatch]
    rfl

/-- There is a rule for every encodable entity. -/
theorem exists_emits_of_encodable (h : e.Encodable) : ∃ parts, Emits e parts := by
  cases e with
  | interface i =>
    obtain ⟨network, role, slice⟩ := i
    obtain rfl | rfl := h
    · exact ⟨_, .accessInterface network slice⟩
    · exact ⟨_, .coreInterface network slice⟩
  | uplinkSession s =>
    obtain ⟨destination, teid, drops⟩ := s
    cases drops with
    | false => exact ⟨_, .admittedUplinkSession destination teid⟩
    | true => exact ⟨_, .droppedUplinkSession destination teid⟩
  | downlinkSession s =>
    obtain ⟨ue, peer, drops, buffers⟩ := s
    cases buffers with
    | true => exact ⟨_, .bufferedDownlinkSession ue peer drops⟩
    | false =>
      cases drops with
      | true => exact ⟨_, .droppedDownlinkSession ue peer⟩
      | false =>
        -- neither flag is up, so what is asked for is to forward
        cases peer with
        | none => rcases h with h | h | h <;> cases h
        | some peer => exact ⟨_, .forwardedDownlinkSession ue peer⟩
  | uplinkTermination t =>
    obtain ⟨ue, app, counter, tc, drops⟩ := t
    cases drops with
    | true => exact ⟨_, .droppedUplinkTermination ue app counter tc⟩
    | false =>
      cases tc with
      | none => exact ⟨_, .unclassifiedUplinkTermination ue app counter⟩
      | some tc => exact ⟨_, .classifiedUplinkTermination ue app counter tc⟩
  | downlinkTermination t =>
    obtain ⟨ue, app, counter, teid, qfi, tc, drops⟩ := t
    cases drops with
    | true => exact ⟨_, .droppedDownlinkTermination ue app counter teid qfi tc⟩
    | false =>
      obtain ⟨hteid, hqfi⟩ := h.resolve_left Bool.false_ne_true
      obtain ⟨teid, rfl⟩ := Option.isSome_iff_exists.mp hteid
      obtain ⟨qfi, rfl⟩ := Option.isSome_iff_exists.mp hqfi
      cases tc with
      | none => exact ⟨_, .unclassifiedDownlinkTermination ue app counter teid qfi⟩
      | some tc => exact ⟨_, .classifiedDownlinkTermination ue app counter teid qfi tc⟩
  | tunnelPeer p => exact ⟨_, .tunnelPeer p⟩
  | application app => exact ⟨_, .application app h⟩
  | counter c => exact h.elim

/-- An encodable entity is translated. -/
theorem exists_encode_of_encodable (h : e.Encodable) : ∃ r, e.encode = .ok r := by
  obtain ⟨parts, hparts⟩ := exists_emits_of_encodable h
  obtain ⟨t, ht⟩ := hparts.exists_tableFor?
  exact ⟨_, encode_eq_ok_iff.mpr ⟨t, parts, ht, hparts, rfl⟩⟩

/-- An entity that is not encodable is refused. -/
theorem exists_refused_of_not_encodable (h : ¬e.Encodable) :
    ∃ cause reason, e.Refused cause reason := by
  cases e with
  | interface i =>
    obtain ⟨haccess, hcore⟩ := not_or.mp h
    exact ⟨_, _, .interface haccess hcore⟩
  | uplinkSession s => exact absurd trivial h
  | downlinkSession s =>
    obtain ⟨hdrops, hrest⟩ := not_or.mp h
    obtain ⟨hbuffers, hpeer⟩ := not_or.mp hrest
    exact ⟨_, _, .tunnelPeer (Bool.eq_false_iff.mpr hdrops) (Bool.eq_false_iff.mpr hbuffers)
      (Option.not_isSome_iff_eq_none.mp hpeer)⟩
  | uplinkTermination t => exact absurd trivial h
  | downlinkTermination t =>
    obtain ⟨hdrops, htunnel⟩ := not_or.mp h
    -- the endpoint is looked at first, so only with it is the flow what is missing
    cases hteid : t.teid with
    | none => exact ⟨_, _, .teid (Bool.eq_false_iff.mpr hdrops) hteid⟩
    | some teid =>
      have hsome : t.teid.isSome = true := by
        rw [hteid]
        rfl
      have hqfi : ¬t.qfi.isSome = true := fun hqfi => htunnel ⟨hsome, hqfi⟩
      exact ⟨_, _, .qfi (Bool.eq_false_iff.mpr hdrops) hsome
        (Option.not_isSome_iff_eq_none.mp hqfi)⟩
  | tunnelPeer p => exact absurd trivial h
  | application app =>
    cases hports : app.ports with
    | none =>
      refine absurd ?_ h
      intro r hr
      rw [hports] at hr
      cases hr
    | some r =>
      refine ⟨_, _, .ports hports (UInt16.not_le.mp ?_)⟩
      intro hle
      refine h fun r' hr' => ?_
      rw [hports] at hr'
      cases hr'
      exact hle
  | counter c => exact ⟨_, _, .counter c⟩

/-- An entity is translated exactly if it is encodable. -/
theorem exists_encode_iff_encodable : (∃ r, e.encode = .ok r) ↔ e.Encodable := by
  constructor
  · rintro ⟨r, hr⟩
    by_contra hnot
    obtain ⟨cause, reason, hrefused⟩ := exists_refused_of_not_encodable hnot
    rw [hrefused.encode_eq] at hr
    cases hr
  · exact exists_encode_of_encodable

/-- The translation fails exactly if the entity is refused, and then with the cause. -/
theorem encode_eq_error_iff {u : Unsupported} :
    e.encode = .error u ↔ ∃ cause reason, e.Refused cause reason ∧ u = .entity e cause := by
  constructor
  · intro h
    have hnot : ¬e.Encodable := by
      intro hencodable
      obtain ⟨r, hr⟩ := exists_encode_of_encodable hencodable
      rw [hr] at h
      cases h
    obtain ⟨cause, reason, hrefused⟩ := exists_refused_of_not_encodable hnot
    rw [hrefused.encode_eq] at h
    exact ⟨cause, reason, hrefused, (Except.error.inj h).symm⟩
  · rintro ⟨cause, reason, hrefused, rfl⟩
    exact hrefused.encode_eq

/-- **What can be programmed, and why the rest cannot.** An entity is translated exactly if it is
encodable, and an application exactly if it could be drafted. Otherwise the failure shows the entity
itself, and the cause and the wording are those of the one thing that is missing; it is never a
match key that breaks a declaration or a draft that lacks a part. -/
theorem encode_eq_ok_or_refused (e : Entity) :
    ((∃ r, e.encode = .ok r) ↔ e.Encodable) ∧
      (∀ app : Application, (∃ r, (application app).encode = .ok r) ↔
        Application.build app.settings = .ok app) ∧
      (∀ u, e.encode = .error u ↔
        ∃ cause reason, e.Refused cause reason ∧ u = .entity e cause ∧ u.reason = reason) ∧
      (∀ broken, e.encode ≠ .error (.entity e (.matchKey broken))) ∧
      ∀ lacking, e.encode ≠ .error (.entity e (.draft lacking)) := by
  refine ⟨exists_encode_iff_encodable, ?_, ?_, ?_, ?_⟩
  · intro app
    rw [exists_encode_iff_encodable, Application.build_settings_eq_ok_iff]
    rfl
  · intro u
    rw [encode_eq_error_iff]
    constructor
    · rintro ⟨cause, reason, hrefused, rfl⟩
      exact ⟨cause, reason, hrefused, rfl, hrefused.message_eq⟩
    · rintro ⟨cause, reason, hrefused, hu, -⟩
      exact ⟨cause, reason, hrefused, hu⟩
  · intro broken h
    obtain ⟨cause, reason, hrefused, hsame⟩ := encode_eq_error_iff.mp h
    cases hsame
    cases hrefused
  · intro lacking h
    obtain ⟨cause, reason, hrefused, hsame⟩ := encode_eq_error_iff.mp h
    cases hsame
    cases hrefused

end Entity

end UserPlane
