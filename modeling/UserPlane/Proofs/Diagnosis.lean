import UserPlane.Proofs.Diagnosis.Step
import UserPlane.Proofs.Format

/-! # Which failure is reported

An entry can be wrong in many ways at once. The reader of each kind of entity reports the checks of
that kind in their order (`reports_interface` and so on), after those of the match key; drafting the
entity then never fails. So **the failure of an entry is the first one that there is**
(`TableEntry.decode_eq_error_iff`), for every combination of things that are wrong. -/

namespace UserPlane

section Kinds

open Decoding Pipeline ByteString

variable {t : Table} {entry : TableEntry} {a : Action}

/-! ## What the action says -/

/-- The source interface is asked for a side. -/
theorem reports_roleOf {side : UInt8} (hside : a.byteOf .sourceInterface = .ok side) :
    Reports t entry a [.side] (roleOf side) := by
  have htold := Action.byteOf_eq_ok_iff.mp hside
  cases hrole : roleOf side with
  | ok role =>
    refine .pass (fun cause reason h => ?_) (.nil role)
    cases h with
    | unknownSide htold' haccess hcore =>
      rw [UInt8.toNat_inj.mp (htold'.unique htold)] at haccess hcore
      rcases roleOf_eq_ok_iff.mp hrole with ⟨h, -⟩ | ⟨h, -⟩
      · exact haccess h
      · exact hcore h
  | error cause =>
    rw [roleOf] at hrole
    split at hrole
    · cases hrole
    · rename_i haccess
      split at hrole
      · cases hrole
      · rename_i hcore
        cases hrole
        exact .fail (.unknownSide htold haccess hcore)

/-- The action of a downlink session is asked for a peer if it forwards. -/
theorem reports_downlinkBehaviour (ha : a.id ∈ downlinkSessions.actions) :
    Reports t entry a (if a.id = .setDownlinkSession then Check.ofParam .tunnelPeer 1 else [])
      (downlinkBehaviour a) := by
  rw [downlinkBehaviour]
  rcases mem_actions_downlinkSessions.mp ha with hid | hid | hid
  · rw [hid, if_pos rfl, if_neg (by decide), if_neg (by decide)]
    exact (reports_readParam reads_toUInt8 .tunnelPeer).bind_ok fun _ _ => ⟨_, rfl⟩
  · rw [hid, if_neg (by decide), if_pos rfl]
    exact .nil _
  · rw [hid, if_neg (by decide), if_neg (by decide), if_pos rfl]
    exact .nil _

/-- The action of an uplink termination is asked for a traffic class if it forwards in one. -/
theorem reports_uplinkBehaviour :
    Reports t entry a (if a.id = .forwardUplink then Check.ofParam .trafficClass 1 else [])
      (uplinkBehaviour a) := by
  rw [uplinkBehaviour]
  by_cases hdrop : a.id = .dropUplink
  · rw [hdrop, if_neg (by decide), if_pos rfl]
    exact .nil _
  · rw [if_neg hdrop]
    by_cases hforward : a.id = .forwardUplink
    · rw [if_pos hforward, if_pos hforward]
      exact (reports_readParam reads_toUInt8 .trafficClass).bind_ok fun _ _ => ⟨_, rfl⟩
    · rw [if_neg hforward, if_neg hforward]
      exact .nil _

/-- The action of a downlink termination is asked for a tunnel unless it drops, and then for a
traffic class if it forwards in one. -/
theorem reports_downlinkForwarding :
    Reports t entry a (Check.ofForwarding a.id) (downlinkForwarding a) := by
  rw [Check.ofForwarding, downlinkForwarding]
  by_cases hdrop : a.id = .dropDownlink
  · rw [if_pos hdrop, if_pos hdrop]
    exact .nil _
  · rw [if_neg hdrop, if_neg hdrop]
    refine (reports_readParam reads_toUInt32 .teid).bind fun teid _ => ?_
    refine (reports_readParam reads_toUInt8 .qfi).bind fun qfi _ => ?_
    by_cases hforward : a.id = .forwardDownlink
    · rw [if_pos hforward, if_pos hforward]
      exact (reports_readParam reads_toUInt8 .trafficClass).bind_ok fun _ _ => ⟨_, rfl⟩
    · rw [if_neg hforward, if_neg hforward]
      exact .nil _

/-! ## One kind at a time -/

/-- An interface is its side and its prefix. -/
theorem reports_interface (hkey : interfaces.KindsKeptBy entry.matchKey) :
    Reports interfaces entry a (Check.order a.id .interface).flatten
      (interface entry.matchKey a) := by
  refine (reports_readParam reads_toUInt8 .sourceInterface).bind fun side hside => ?_
  refine (reports_roleOf (mapError_eq_ok_iff.mp hside)).bind fun role hrole => ?_
  refine (reports_prefixOf .destinationPrefix (hkey (by decide))).bind fun network _ => ?_
  rcases roleOf_eq_ok_iff.mp hrole with ⟨-, rfl⟩ | ⟨-, rfl⟩
  · exact .nil _
  · exact .nil _

/-- An uplink session is its tunnel. -/
theorem reports_uplinkSession (hkey : uplinkSessions.KindsKeptBy entry.matchKey) :
    Reports uplinkSessions entry a (Check.order a.id .uplinkSession).flatten
      (uplinkSession entry.matchKey a) := by
  refine (reports_readExact reads_toAddress .n3Address (hkey (by decide))).bind fun n3 _ => ?_
  refine (reports_readExact reads_toUInt32 .teid (hkey (by decide))).bind fun teid _ => ?_
  exact .nil _

/-- A downlink session is its user equipment, and a peer if it forwards. -/
theorem reports_downlinkSession (ha : a.id ∈ downlinkSessions.actions)
    (hkey : downlinkSessions.KindsKeptBy entry.matchKey) :
    Reports downlinkSessions entry a (Check.order a.id .downlinkSession).flatten
      (downlinkSession entry.matchKey a) := by
  refine (reports_readExact reads_toAddress .ueAddress (hkey (by decide))).bind fun ue _ => ?_
  refine (reports_downlinkBehaviour ha).bind fun behaviour hb => ?_
  rcases (downlinkBehaviour_eq_ok_iff ha).mp hb with ⟨-, rfl⟩ | ⟨-, rfl⟩ | ⟨-, peer, -, rfl⟩
  · exact .nil _
  · exact .nil _
  · exact .nil _

/-- An uplink termination is its user equipment, application and counter, and a class if it has
one. -/
theorem reports_uplinkTermination (hkey : uplinkTerminations.KindsKeptBy entry.matchKey) :
    Reports uplinkTerminations entry a (Check.order a.id .uplinkTermination).flatten
      (uplinkTermination entry.matchKey a) := by
  refine (reports_readExact reads_toAddress .ueAddress (hkey (by decide))).bind fun ue _ => ?_
  refine (reports_readExact reads_toUInt8 .application (hkey (by decide))).bind fun app _ => ?_
  refine (reports_readParam reads_toUInt32 .counter).bind fun counter _ => ?_
  refine reports_uplinkBehaviour.bind fun settings hs => ?_
  rcases uplinkBehaviour_eq_ok_iff.mp hs with ⟨-, rfl⟩ | ⟨-, tc, -, rfl⟩ | ⟨-, -, rfl⟩
  · exact .nil _
  · exact .nil _
  · exact .nil _

/-- A downlink termination is in addition its tunnel if it does not drop. -/
theorem reports_downlinkTermination (ha : a.id ∈ downlinkTerminations.actions)
    (hkey : downlinkTerminations.KindsKeptBy entry.matchKey) :
    Reports downlinkTerminations entry a (Check.order a.id .downlinkTermination).flatten
      (downlinkTermination entry.matchKey a) := by
  refine (reports_readExact reads_toAddress .ueAddress (hkey (by decide))).bind fun ue _ => ?_
  refine (reports_readExact reads_toUInt8 .application (hkey (by decide))).bind fun app _ => ?_
  refine (reports_readParam reads_toUInt32 .counter).bind fun counter _ => ?_
  refine reports_downlinkForwarding.bind fun settings hs => ?_
  rcases (downlinkForwarding_eq_ok_iff ha).mp hs with
    ⟨-, rfl⟩ | ⟨-, teid, -, qfi, -, ⟨-, tc, -, rfl⟩ | ⟨-, rfl⟩⟩
  · exact .nil _
  · exact .nil _
  · exact .nil _

/-- A tunnel peer is its number and its endpoints. -/
theorem reports_tunnelPeer (hkey : tunnelPeers.KindsKeptBy entry.matchKey) :
    Reports tunnelPeers entry a (Check.order a.id .tunnelPeer).flatten
      (tunnelPeer entry.matchKey a) := by
  refine (reports_readExact reads_toUInt8 .tunnelPeer (hkey (by decide))).bind fun id _ => ?_
  refine (reports_readParam reads_toAddress .source).bind fun source _ => ?_
  refine (reports_readParam reads_toAddress .destination).bind fun destination _ => ?_
  refine (reports_readParam reads_toUInt16 .sourcePort).bind fun port _ => ?_
  exact .nil _

/-- An application is its number, its priority, and a filter of three optional parts. -/
theorem reports_application (hkey : applications.KindsKeptBy entry.matchKey) :
    Reports applications entry a (Check.order a.id .application).flatten
      (application entry a) := by
  have hpriority : Reports applications entry a [.priority]
      (entry.requirePriority.mapError .field) := by
    rw [TableEntry.requirePriority]
    cases hp : entry.priority with
    | none => exact .fail (.missingPriority hp)
    | some p =>
      refine .pass (fun cause reason h => ?_) (.nil p)
      cases h with
      | missingPriority h =>
        rw [hp] at h
        cases h
  refine (reports_readParam reads_toUInt8 .application).bind fun id _ => ?_
  refine hpriority.bind fun priority _ => ?_
  refine (reports_ifPresent .applicationAddress .network (by decide) fun v hfind =>
    reports_prefixOf_of_find? hfind (hkey (by decide) v hfind)).bind fun network hn => ?_
  refine (reports_ifPresent .applicationPort .ports (by decide) fun v hfind =>
    reports_portsOf_of_find? hfind (hkey (by decide) v hfind)).bind fun ports hp => ?_
  refine (reports_ifPresent .applicationProtocol .protocol (by decide) fun v hfind =>
    reports_maskedByteOf_of_find? hfind (hkey (by decide) v hfind)).bind_ok
      fun protocol hq => ?_
  -- a range that was read holds a port, so drafting the application cannot fail
  obtain ⟨n, -, rfl⟩ := (ifPresent_eq_ok_iff MatchKey.prefixOf_eq_ok_iff).mp
    (mapError_eq_ok_iff.mp hn)
  obtain ⟨r, hr, rfl⟩ := (ifPresent_eq_ok_iff MatchKey.portsOf_eq_ok_iff).mp
    (mapError_eq_ok_iff.mp hp)
  obtain ⟨q, -, rfl⟩ := (ifPresent_eq_ok_iff MatchKey.maskedByteOf_eq_ok_iff).mp
    (mapError_eq_ok_iff.mp hq)
  have hcheck : Application.checkPorts r = .ok () := by
    refine Application.checkPorts_eq_ok_iff.mpr fun range hrange => ?_
    rw [Option.mem_def.mp hrange] at hr
    obtain ⟨-, low, high, -, -, -, hle⟩ := hr
    exact hle
  have hdraft := Application.build_settings ⟨id, priority, n, r, q, mobileSlice⟩
  rw [hcheck] at hdraft
  exact ⟨_, congrArg (Except.mapError DecodeError.entity) hdraft⟩

/-- Whatever the kind, the entity is read in the order of its checks. -/
theorem reports_entityOf (ht : t ∈ tables) (ha : a.id ∈ t.actions)
    (hkey : t.KindsKeptBy entry.matchKey) :
    Reports t entry a (Check.order a.id t.kind).flatten (entityOf t.kind entry a) := by
  simp only [tables, List.mem_cons, List.not_mem_nil, or_false] at ht
  rcases ht with rfl | rfl | rfl | rfl | rfl | rfl | rfl
  · exact (reports_interface hkey).map _
  · exact (reports_uplinkSession hkey).map _
  · exact (reports_downlinkSession ha hkey).map _
  · exact (reports_uplinkTermination hkey).map _
  · exact (reports_downlinkTermination ha hkey).map _
  · exact (reports_tunnelPeer hkey).map _
  · exact (reports_application hkey).map _

/-- An action is asked whether the table takes it. -/
theorem acceptedAction_eq (t : Table) (haction : entry.action = some a) :
    acceptedAction t entry =
      if t.accepts a.id then .ok a else .error (.unexpectedAction entry.table a.id) := by
  rw [acceptedAction, TableEntry.requireAction, haction]
  rfl

/-- An entry in a table that takes its action reports the first failing check of all. -/
theorem reports_toEntity (ht : t ∈ tables) (hid : t.id = entry.table)
    (haction : entry.action = some a) (ha : a.id ∈ t.actions) :
    Reports t entry a
      (entry.matchKey.fieldMatches.map .declared ++ (Check.order a.id t.kind).flatten)
      entry.toEntity := by
  have hsteps : entry.toEntity = (t.checkKey entry.matchKey).mapError .matchKey >>= fun _ =>
      entityOf t.kind entry a := by
    simp only [TableEntry.toEntity, tableNamed?_eq_some_iff.mpr ⟨ht, hid⟩,
      acceptedAction_eq t haction, if_pos (Table.accepts_eq_true_iff.mpr ha)]
    rfl
  rw [hsteps]
  exact (reports_checkKey ht _).bind fun _ hkey =>
    reports_entityOf ht ha (Table.kindsKeptBy_of_checkKey ht (mapError_eq_ok_iff.mp hkey))

end Kinds

/-! ## The reported failure -/

namespace TableEntry

open Pipeline

variable {entry : TableEntry} {cause : DecodeError} {reason : String}

/-- An entry that is refused is not translated, for the cause of the refusal. -/
theorem Refused.toEntity_eq (h : entry.Refused cause reason) : entry.toEntity = .error cause := by
  cases h with
  | unknownTable h =>
    rw [toEntity, show tableNamed? entry.table = none from Keyed.find?_eq_none_iff.mpr h]
  | missingAction ht hid h =>
    rw [toEntity, tableNamed?_eq_some_iff.mpr ⟨ht, hid⟩]
    simp only [Decoding.acceptedAction, requireAction, h]
    rfl
  | unexpectedAction ht hid ha h =>
    simp only [toEntity, tableNamed?_eq_some_iff.mpr ⟨ht, hid⟩, acceptedAction_eq _ ha,
      if_neg (mt Table.accepts_eq_true_iff.mp h)]
    rfl
  | check ht hid ha haccepted h =>
    have hreports := reports_toEntity ht hid ha haccepted
    cases hresult : entry.toEntity with
    | ok e =>
      rw [hresult] at hreports
      exact absurd hreports h.not_allPass
    | error cause' =>
      rw [hresult] at hreports
      rw [(hreports.unique (fun _ _ _ _ _ h h' => h.unique ht h') h).1]

/-- An entry that is not translated is refused, for the cause of the failure. -/
theorem refused_of_toEntity_eq_error (h : entry.toEntity = .error cause) :
    entry.Refused cause cause.message := by
  cases htable : tableNamed? entry.table with
  | none =>
    rw [toEntity, htable] at h
    cases h
    exact .unknownTable (Keyed.find?_eq_none_iff.mp htable)
  | some t =>
    obtain ⟨ht, hid⟩ := tableNamed?_eq_some_iff.mp htable
    cases haction : entry.action with
    | none =>
      have hrefused := Refused.missingAction ht hid haction
      rw [hrefused.toEntity_eq] at h
      cases h
      exact hrefused
    | some a =>
      by_cases ha : a.id ∈ t.actions
      · have hreports := reports_toEntity ht hid haction ha
        rw [h] at hreports
        exact .check ht hid haction ha hreports
      · have hrefused := Refused.unexpectedAction ht hid haction ha
        rw [hrefused.toEntity_eq] at h
        cases h
        exact hrefused

/-- **The first thing that is wrong is reported.** Whatever else is wrong with an entry, the failure
shows the entry itself, and the cause and the words are those of the first check that fails: the
table, the action, the field matches of the key in order, and then what the kind of the table reads
for the action, in the order in which it is listed. -/
theorem decode_eq_error_iff (entry : TableEntry) (u : Unsupported) :
    entry.decode = .error u ↔
      ∃ cause reason, entry.Refused cause reason ∧ u = .entry entry cause ∧ u.reason = reason := by
  constructor
  · intro h
    cases hresult : entry.toEntity with
    | ok e =>
      rw [decode, hresult] at h
      cases h
    | error cause =>
      rw [decode, hresult] at h
      cases h
      exact ⟨cause, cause.message, refused_of_toEntity_eq_error hresult, rfl, rfl⟩
  · rintro ⟨cause, reason, hrefused, rfl, -⟩
    rw [decode, hrefused.toEntity_eq]
    rfl

-- The ports are read before the protocol, wherever they stand in the key.
example :
    toEntity ⟨.applications,
        ⟨[⟨.applicationProtocol, .ternary (.ofUInt16 300) (.ofUInt8 15)⟩,
          ⟨.applicationPort, .range (.ofUInt16 2) (.ofUInt16 1)⟩]⟩,
        some 0, some ⟨.setApplication, [⟨.application, .ofUInt8 7⟩]⟩⟩ =
      .error (.field (.emptyRange .applicationPort ⟨2, 1⟩)) := by decide

end TableEntry

end UserPlane
