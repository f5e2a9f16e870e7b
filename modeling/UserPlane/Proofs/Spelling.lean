import UserPlane.Proofs.Acceptance
import Mathlib.Logic.Relation

/-! # How an entry is spelled

A device may give an entry back in another form than it was written in: with its matches and
parameters in another order, with leading zero bytes stripped or added, with parameters that no one
reads, with host bits in a prefix, or with a priority where none counts. Each of these changes
**respells** the entry (`TableEntry.Respells`). None of them touches the **sense** of the entry
(`TableEntry.sense`), which is all that the reader goes by. So **an entry decodes to the same entity
however it is spelled**, after any number of changes made or undone. -/

namespace UserPlane

/-! ## What a match says -/

/-- What a match value says: numbers for byte strings, and no host bits. -/
inductive MatchSense where
  /-- The field is the number. -/
  | exact (number : Nat)
  /-- The field begins like the number, for so many bits. -/
  | longestPrefix (network length : Nat)
  /-- The field agrees with the number on the bits of another. -/
  | ternary (number mask : Nat)
  /-- The field lies between two numbers. -/
  | range (low high : Nat)

/-- What a match value says, however its bytes are spelled. -/
def MatchValue.sense : MatchValue → MatchSense
  | exact b => .exact b.value
  | longestPrefix b length =>
    .longestPrefix (b.value / 2 ^ Prefix.hostBits length.toNat * 2 ^ Prefix.hostBits length.toNat)
      length.toNat
  | ternary b mask => .ternary b.value mask.value
  | range low high => .range low.value high.value

namespace MatchKey

/-- What the first match on a field says. -/
def senseOf (key : MatchKey) (field : FieldId) : Option MatchSense :=
  (key.find? field).map fun m => m.value.sense

variable {key : MatchKey} {field : FieldId}

/-- A field is matched on exactly if something is said of it. -/
theorem contains_eq_isSome_senseOf : key.contains field = (key.senseOf field).isSome := by
  rw [contains, senseOf, Option.isSome_map]

/-- What is said of a field is said by the first match on it. -/
theorem senseOf_eq_some_iff {s : MatchSense} :
    key.senseOf field = some s ↔ ∃ v, key.find? field = some ⟨field, v⟩ ∧ v.sense = s := by
  rw [senseOf, Option.map_eq_some_iff]
  constructor
  · rintro ⟨⟨mfield, v⟩, hfind, hsense⟩
    obtain rfl : mfield = field := field_of_find? hfind
    exact ⟨v, hfind, hsense⟩
  · rintro ⟨v, hfind, hsense⟩
    exact ⟨⟨field, v⟩, hfind, hsense⟩

/-- A number is told exactly if the field is said to be that number. -/
theorem tellsNumber_iff {n : Nat} :
    key.TellsNumber field n ↔ key.senseOf field = some (.exact n) := by
  rw [senseOf_eq_some_iff]
  constructor
  · rintro ⟨b, hfind, rfl⟩
    exact ⟨_, hfind, rfl⟩
  · rintro ⟨v, hfind, hsense⟩
    cases v with
    | exact b => exact ⟨b, hfind, MatchSense.exact.inj hsense⟩
    | _ => cases hsense

/-- A prefix is told exactly if the field is said to begin like its network. -/
theorem tellsPrefix_iff {p : Prefix} :
    key.TellsPrefix field p ↔
      key.senseOf field = some (.longestPrefix p.network.bits.toNat p.length.toNat) := by
  rw [senseOf_eq_some_iff]
  constructor
  · rintro ⟨b, length, hfind, -, hlength, hnetwork⟩
    refine ⟨_, hfind, ?_⟩
    rw [hnetwork, hlength]
    rfl
  · rintro ⟨v, hfind, hsense⟩
    cases v with
    | longestPrefix b length =>
      obtain ⟨hnetwork, hlength⟩ := MatchSense.longestPrefix.inj hsense
      refine ⟨b, length, hfind, ?_, hlength.symm, hnetwork.symm⟩
      apply Prefix.lt_of_rounded_lt
      rw [hnetwork]
      exact p.network.bits.toNat_lt
    | _ => cases hsense

/-- A range is told exactly if the field is said to lie between its bounds. -/
theorem tellsPorts_iff {r : PortRange} :
    key.TellsPorts field r ↔
      key.senseOf field = some (.range r.low.toNat r.high.toNat) ∧ r.low ≤ r.high := by
  rw [senseOf_eq_some_iff]
  constructor
  · rintro ⟨low, high, hfind, hlow, hhigh, hle⟩
    refine ⟨⟨_, hfind, ?_⟩, hle⟩
    rw [← hlow, ← hhigh]
    rfl
  · rintro ⟨⟨v, hfind, hsense⟩, hle⟩
    cases v with
    | range low high =>
      obtain ⟨hlow, hhigh⟩ := MatchSense.range.inj hsense
      exact ⟨low, high, hfind, hlow, hhigh, hle⟩
    | _ => cases hsense

/-- A number under a full mask is told exactly if the field is said to agree with it on all bits. -/
theorem tellsMaskedNumber_iff {n : Nat} :
    key.TellsMaskedNumber field n ↔ key.senseOf field = some (.ternary n 255) := by
  rw [senseOf_eq_some_iff]
  constructor
  · rintro ⟨b, mask, hfind, hmask, rfl⟩
    refine ⟨_, hfind, ?_⟩
    rw [← hmask]
    rfl
  · rintro ⟨v, hfind, hsense⟩
    cases v with
    | ternary b mask =>
      obtain ⟨hvalue, hmask⟩ := MatchSense.ternary.inj hsense
      exact ⟨b, mask, hfind, hmask, hvalue⟩
    | _ => cases hsense

variable {key' : MatchKey}

/-- Keys that say the same tell the same numbers. -/
theorem tellsNumber_congr (h : key.senseOf = key'.senseOf) {n : Nat} :
    key.TellsNumber field n ↔ key'.TellsNumber field n := by
  rw [tellsNumber_iff, tellsNumber_iff, h]

/-- Keys that say the same tell the same prefixes. -/
theorem tellsPrefix_congr (h : key.senseOf = key'.senseOf) {p : Prefix} :
    key.TellsPrefix field p ↔ key'.TellsPrefix field p := by
  rw [tellsPrefix_iff, tellsPrefix_iff, h]

/-- Keys that say the same tell the same ranges. -/
theorem tellsPorts_congr (h : key.senseOf = key'.senseOf) {r : PortRange} :
    key.TellsPorts field r ↔ key'.TellsPorts field r := by
  rw [tellsPorts_iff, tellsPorts_iff, h]

/-- Keys that say the same tell the same numbers under a full mask. -/
theorem tellsMaskedNumber_congr (h : key.senseOf = key'.senseOf) {n : Nat} :
    key.TellsMaskedNumber field n ↔ key'.TellsMaskedNumber field n := by
  rw [tellsMaskedNumber_iff, tellsMaskedNumber_iff, h]

end MatchKey

/-! ## What an action says -/

namespace Action

/-- The number that the first parameter of a name denotes. -/
def numberOf (a : Action) (param : ParamId) : Option Nat :=
  (a.param? param).map fun p => p.value.value

/-- What an action says: its name, and the numbers of the parameters that are read. -/
def sense (a : Action) : ActionId × (ParamId → Option Nat) :=
  (a.id, fun param => if a.id.Reads param then a.numberOf param else none)

variable {a b : Action} {param : ParamId}

/-- A number is told exactly if the first parameter of the name denotes it. -/
theorem tellsNumber_iff {n : Nat} : a.TellsNumber param n ↔ a.numberOf param = some n := by
  rw [numberOf, Option.map_eq_some_iff]
  constructor
  · rintro ⟨bytes, hfind, hvalue⟩
    exact ⟨_, hfind, hvalue⟩
  · rintro ⟨⟨id, bytes⟩, hfind, hvalue⟩
    obtain rfl : id = param := id_of_param? hfind
    exact ⟨bytes, hfind, hvalue⟩

/-- Actions that say the same have one name. -/
theorem id_eq_of_sense_eq (h : a.sense = b.sense) : a.id = b.id := congrArg Prod.fst h

/-- Actions that say the same tell the same under the names that are read. -/
theorem tellsNumber_congr (h : a.sense = b.sense) (hreads : a.id.Reads param) {n : Nat} :
    a.TellsNumber param n ↔ b.TellsNumber param n := by
  have hb : b.id.Reads param := id_eq_of_sense_eq h ▸ hreads
  have hnumber : a.numberOf param = b.numberOf param := by
    have hsame := congrFun (congrArg Prod.snd h) param
    simpa only [sense, if_pos hreads, if_pos hb] using hsame
  rw [tellsNumber_iff, tellsNumber_iff, hnumber]

end Action

/-! ## What an entry says -/

/-- What is left of an entry when its spelling is forgotten. -/
structure EntrySense where
  /-- The table. -/
  table : TableId
  /-- Which fields are matched on, and how, in whatever order and however often. -/
  fields : Pipeline.MatchField → Prop
  /-- What the first match on each field says. -/
  key : FieldId → Option MatchSense
  /-- The priority, if it counts. -/
  priority : Option Int32
  /-- What the action says, if there is one. -/
  action : Option (ActionId × (ParamId → Option Nat))

/-- What an entry says. -/
def TableEntry.sense (entry : TableEntry) : EntrySense where
  table := entry.table
  fields f := f ∈ entry.matchKey.fieldMatches.map fun m => ⟨m.field, m.kind⟩
  key := entry.matchKey.senseOf
  priority := if entry.table = .applications then entry.priority else none
  action := entry.action.map Action.sense

/-! ## What is told is what is said -/

section Told

variable {key key' : MatchKey} {a b : Action}

/-- Interfaces are told alike by keys and actions that say the same. -/
theorem Interface.ToldBy.of_sense_eq {i : Interface} (hkey : key.senseOf = key'.senseOf)
    (haction : a.sense = b.sense) (ha : a.id ∈ Pipeline.interfaces.actions)
    (h : i.ToldBy key a) : i.ToldBy key' b := by
  have hreads : ∀ id ∈ Pipeline.interfaces.actions, id.Reads .sourceInterface := by decide
  have hside {n : Nat} : a.TellsNumber .sourceInterface n ↔ b.TellsNumber .sourceInterface n :=
    Action.tellsNumber_congr haction (hreads _ ha)
  exact ⟨(MatchKey.tellsPrefix_congr hkey).mp h.network,
    h.side.imp (And.imp_right hside.mp) (And.imp_right hside.mp), h.slice⟩

/-- Uplink sessions are told alike by keys and actions that say the same. -/
theorem UplinkSession.ToldBy.of_sense_eq {s : UplinkSession} (hkey : key.senseOf = key'.senseOf)
    (haction : a.sense = b.sense) (h : s.ToldBy key a) : s.ToldBy key' b := by
  have hid : a.id = b.id := Action.id_eq_of_sense_eq haction
  exact ⟨(MatchKey.tellsNumber_congr hkey).mp h.tunnelDestination,
    (MatchKey.tellsNumber_congr hkey).mp h.teid, hid ▸ h.drops⟩

/-- Downlink sessions are told alike by keys and actions that say the same. -/
theorem DownlinkSession.ToldBy.of_sense_eq {s : DownlinkSession}
    (hkey : key.senseOf = key'.senseOf) (haction : a.sense = b.sense) (h : s.ToldBy key a) :
    s.ToldBy key' b := by
  have hid : a.id = b.id := Action.id_eq_of_sense_eq haction
  -- the peer is read under the one action that forwards, and only there is it told
  have hpeer : ActionId.setDownlinkSession.Reads .tunnelPeer := by decide
  exact ⟨(MatchKey.tellsNumber_congr hkey).mp h.ueAddress,
    (ToldWhen.congr (by rw [hid]) fun hset _ =>
      Action.tellsNumber_congr haction (hset ▸ hpeer)).mp h.tunnelPeer,
    hid ▸ h.drops, hid ▸ h.buffers⟩

/-- Uplink terminations are told alike by keys and actions that say the same. -/
theorem UplinkTermination.ToldBy.of_sense_eq {t : UplinkTermination}
    (hkey : key.senseOf = key'.senseOf) (haction : a.sense = b.sense)
    (ha : a.id ∈ Pipeline.uplinkTerminations.actions) (h : t.ToldBy key a) : t.ToldBy key' b := by
  have hid : a.id = b.id := Action.id_eq_of_sense_eq haction
  have hcounter : ∀ id ∈ Pipeline.uplinkTerminations.actions, id.Reads .counter := by decide
  have hclass : ActionId.forwardUplink.Reads .trafficClass := by decide
  exact ⟨(MatchKey.tellsNumber_congr hkey).mp h.ueAddress,
    (MatchKey.tellsNumber_congr hkey).mp h.application,
    (Action.tellsNumber_congr haction (hcounter _ ha)).mp h.counter,
    (ToldWhen.congr (by rw [hid]) fun hforward _ =>
      Action.tellsNumber_congr haction (hforward ▸ hclass)).mp h.trafficClass,
    hid ▸ h.drops⟩

/-- Downlink terminations are told alike by keys and actions that say the same. -/
theorem DownlinkTermination.ToldBy.of_sense_eq {t : DownlinkTermination}
    (hkey : key.senseOf = key'.senseOf) (haction : a.sense = b.sense)
    (ha : a.id ∈ Pipeline.downlinkTerminations.actions) (h : t.ToldBy key a) :
    t.ToldBy key' b := by
  have hid : a.id = b.id := Action.id_eq_of_sense_eq haction
  have hcounter : ∀ id ∈ Pipeline.downlinkTerminations.actions, id.Reads .counter := by decide
  have hclass : ActionId.forwardDownlink.Reads .trafficClass := by decide
  -- both actions that forward read the tunnel
  have htunnel : a.id.ForwardsDownlink → a.id.Reads .teid ∧ a.id.Reads .qfi := by
    rintro (hforward | hforward)
    · rw [hforward]
      decide
    · rw [hforward]
      decide
  exact ⟨(MatchKey.tellsNumber_congr hkey).mp h.ueAddress,
    (MatchKey.tellsNumber_congr hkey).mp h.application,
    (Action.tellsNumber_congr haction (hcounter _ ha)).mp h.counter,
    (ToldWhen.congr (by rw [hid]) fun hforwards _ =>
      Action.tellsNumber_congr haction (htunnel hforwards).1).mp h.teid,
    (ToldWhen.congr (by rw [hid]) fun hforwards _ =>
      Action.tellsNumber_congr haction (htunnel hforwards).2).mp h.qfi,
    (ToldWhen.congr (by rw [hid]) fun hforward _ =>
      Action.tellsNumber_congr haction (hforward ▸ hclass)).mp h.trafficClass,
    hid ▸ h.drops⟩

/-- Tunnel peers are told alike by keys and actions that say the same. -/
theorem TunnelPeer.ToldBy.of_sense_eq {p : TunnelPeer} (hkey : key.senseOf = key'.senseOf)
    (haction : a.sense = b.sense) (ha : a.id ∈ Pipeline.tunnelPeers.actions)
    (h : p.ToldBy key a) : p.ToldBy key' b := by
  have hreads : ∀ id ∈ Pipeline.tunnelPeers.actions,
      id.Reads .source ∧ id.Reads .destination ∧ id.Reads .sourcePort := by decide
  obtain ⟨hsource, hdestination, hport⟩ := hreads _ ha
  exact ⟨(MatchKey.tellsNumber_congr hkey).mp h.id,
    (Action.tellsNumber_congr haction hsource).mp h.source,
    (Action.tellsNumber_congr haction hdestination).mp h.destination,
    (Action.tellsNumber_congr haction hport).mp h.sourcePort⟩

/-- Applications are told alike by entries whose keys and actions say the same and whose priorities
are equal. -/
theorem Application.ToldBy.of_sense_eq {app : Application} {entry entry' : TableEntry}
    (hkey : entry.matchKey.senseOf = entry'.matchKey.senseOf)
    (hpriority : entry.priority = entry'.priority) (haction : a.sense = b.sense)
    (ha : a.id ∈ Pipeline.applications.actions) (h : app.ToldBy entry a) : app.ToldBy entry' b := by
  have hreads : ∀ id ∈ Pipeline.applications.actions, id.Reads .application := by decide
  have hcontains (field : FieldId) : (entry.matchKey.contains field = true) ↔
      (entry'.matchKey.contains field = true) := by
    rw [MatchKey.contains_eq_isSome_senseOf, MatchKey.contains_eq_isSome_senseOf, hkey]
  exact ⟨(Action.tellsNumber_congr haction (hreads _ ha)).mp h.id, hpriority ▸ h.priority,
    (ToldWhen.congr (hcontains _) fun _ _ => MatchKey.tellsPrefix_congr hkey).mp h.network,
    (ToldWhen.congr (hcontains _) fun _ _ => MatchKey.tellsPorts_congr hkey).mp h.ports,
    (ToldWhen.congr (hcontains _) fun _ _ => MatchKey.tellsMaskedNumber_congr hkey).mp h.protocol,
    h.slice⟩

end Told

namespace TableEntry

variable {entry entry' : TableEntry}

/-- **The reader goes by the sense.** Entries that say the same decode to the same entity. -/
theorem decode_of_sense_eq (hsense : entry.sense = entry'.sense) {e : Entity}
    (h : entry.decode = .ok e) : entry'.decode = .ok e := by
  obtain ⟨t, ht, a, hkind, hid, haction, haccepted, hkey, htold⟩ := told_of_decode h
  have htable : entry.table = entry'.table := congrArg EntrySense.table hsense
  have hfields := congrArg EntrySense.fields hsense
  have hsays : entry.matchKey.senseOf = entry'.matchKey.senseOf := congrArg EntrySense.key hsense
  have hactions : entry.action.map Action.sense = entry'.action.map Action.sense :=
    congrArg EntrySense.action hsense
  -- the other entry has an action too, and one that says the same
  rw [haction] at hactions
  obtain ⟨b, hb, hsame⟩ := Option.map_eq_some_iff.mp hactions.symm
  have hdeclared : ∀ m ∈ entry'.matchKey.fieldMatches, t.Declares m := by
    intro m hm
    have hfield : entry.sense.fields ⟨m.field, m.kind⟩ := by
      rw [hfields]
      exact List.mem_map_of_mem hm
    obtain ⟨m', hm', hsame⟩ := List.mem_map.mp hfield
    have hdeclares := hkey m' hm'
    rwa [Pipeline.Table.Declares, hsame] at hdeclares
  refine decode_of_told ht hkind (htable ▸ hid) hb
    (Action.id_eq_of_sense_eq hsame ▸ haccepted) hdeclared ?_
  have hfor := Pipeline.tableFor?_eq_some_iff.mpr ⟨ht, hkind⟩
  cases e with
  | interface i =>
    cases hfor
    exact Interface.ToldBy.of_sense_eq hsays hsame.symm haccepted htold
  | uplinkSession s => exact UplinkSession.ToldBy.of_sense_eq hsays hsame.symm htold
  | downlinkSession s => exact DownlinkSession.ToldBy.of_sense_eq hsays hsame.symm htold
  | uplinkTermination t =>
    cases hfor
    exact UplinkTermination.ToldBy.of_sense_eq hsays hsame.symm haccepted htold
  | downlinkTermination t =>
    cases hfor
    exact DownlinkTermination.ToldBy.of_sense_eq hsays hsame.symm haccepted htold
  | tunnelPeer p =>
    cases hfor
    exact TunnelPeer.ToldBy.of_sense_eq hsays hsame.symm haccepted htold
  | application app =>
    cases hfor
    have hpriority := congrArg EntrySense.priority hsense
    rw [sense, sense] at hpriority
    dsimp only at hpriority
    rw [if_pos (show entry.table = .applications from hid),
      if_pos (show entry'.table = .applications from htable ▸ hid)] at hpriority
    exact Application.ToldBy.of_sense_eq hsays hpriority hsame.symm haccepted htold
  | counter c => exact htold.elim

end TableEntry

/-! ## Respelling -/

/-- A match value spelled in another way. -/
inductive MatchValue.Respells : MatchValue → MatchValue → Prop where
  /-- Zero bytes are put in front of the value of an exact match. -/
  | exact (b : ByteString) (zeros : Nat) : Respells (.exact b) (.exact (b.padded zeros))
  /-- Zero bytes are put in front of the value of a prefix match. -/
  | longestPrefix (b : ByteString) (length : UInt32) (zeros : Nat) :
    Respells (.longestPrefix b length) (.longestPrefix (b.padded zeros) length)
  /-- Zero bytes are put in front of the value of a ternary match. -/
  | ternary (b mask : ByteString) (zeros : Nat) :
    Respells (.ternary b mask) (.ternary (b.padded zeros) mask)
  /-- Zero bytes are put in front of its mask. -/
  | mask (b mask : ByteString) (zeros : Nat) :
    Respells (.ternary b mask) (.ternary b (mask.padded zeros))
  /-- Zero bytes are put in front of the low bound of a range. -/
  | low (low high : ByteString) (zeros : Nat) :
    Respells (.range low high) (.range (low.padded zeros) high)
  /-- Zero bytes are put in front of its high bound. -/
  | high (low high : ByteString) (zeros : Nat) :
    Respells (.range low high) (.range low (high.padded zeros))
  /-- Bits of a prefix match that lie beyond its length are changed; with a length that an address
  does not have, there are none. -/
  | hostBits {b c : ByteString} {length : UInt32}
    (hbits : ∀ i, Prefix.hostBits length.toNat ≤ i → b.value.testBit i = c.value.testBit i) :
    Respells (.longestPrefix b length) (.longestPrefix c length)

namespace MatchValue.Respells

variable {v v' : MatchValue}

/-- A match value that is spelled in another way is compared in the same way. -/
theorem kind_eq (h : Respells v v') : v.kind = v'.kind := by
  cases h with
  | _ => rfl

/-- A match value that is spelled in another way says the same. -/
theorem sense_eq (h : Respells v v') : v.sense = v'.sense := by
  cases h with
  | @hostBits b c length hbits =>
    have hquotient : b.value / 2 ^ Prefix.hostBits length.toNat =
        c.value / 2 ^ Prefix.hostBits length.toNat := by
      apply Nat.eq_of_testBit_eq
      intro i
      rw [Nat.testBit_div_two_pow, Nat.testBit_div_two_pow]
      exact hbits _ (Nat.le_add_left _ _)
    rw [sense, sense, hquotient]
  | _ => simp only [sense, ByteString.value_padded]

end MatchValue.Respells

/-- An entry spelled in another way, by one change. A change can be undone as well as made, so zeros
also go, and a parameter that is not read is also replaced, by taking it away and adding another. -/
inductive TableEntry.Respells : TableEntry → TableEntry → Prop where
  /-- Matches on different fields change places. -/
  | matchOrder {table : TableId} {ms ms' : List FieldMatch} {priority : Option Int32}
    {action : Option Action} (hdistinct : (ms.map FieldMatch.field).Nodup) (hperm : ms.Perm ms') :
    Respells ⟨table, ⟨ms⟩, priority, action⟩ ⟨table, ⟨ms'⟩, priority, action⟩
  /-- The value of a match is spelled in another way. -/
  | matchValue {table : TableId} {before after : List FieldMatch} {field : FieldId}
    {v v' : MatchValue} {priority : Option Int32} {action : Option Action} (hv : v.Respells v') :
    Respells ⟨table, ⟨before ++ ⟨field, v⟩ :: after⟩, priority, action⟩
      ⟨table, ⟨before ++ ⟨field, v'⟩ :: after⟩, priority, action⟩
  /-- Parameters with different names change places. -/
  | paramOrder {table : TableId} {key : MatchKey} {priority : Option Int32} {id : ActionId}
    {ps ps' : List ActionParam} (hdistinct : (ps.map ActionParam.id).Nodup) (hperm : ps.Perm ps') :
    Respells ⟨table, key, priority, some ⟨id, ps⟩⟩ ⟨table, key, priority, some ⟨id, ps'⟩⟩
  /-- Zero bytes are put in front of a parameter. -/
  | paramValue {table : TableId} {key : MatchKey} {priority : Option Int32} {id : ActionId}
    {before after : List ActionParam} {param : ParamId} {b : ByteString} (zeros : Nat) :
    Respells ⟨table, key, priority, some ⟨id, before ++ ⟨param, b⟩ :: after⟩⟩
      ⟨table, key, priority, some ⟨id, before ++ ⟨param, b.padded zeros⟩ :: after⟩⟩
  /-- A parameter that the action does not read is added. -/
  | unreadParam {table : TableId} {key : MatchKey} {priority : Option Int32} {id : ActionId}
    {before after : List ActionParam} {p : ActionParam} (hunread : ¬id.Reads p.id) :
    Respells ⟨table, key, priority, some ⟨id, before ++ after⟩⟩
      ⟨table, key, priority, some ⟨id, before ++ p :: after⟩⟩
  /-- A priority that does not count is given, changed or taken away. -/
  | priority {table : TableId} {key : MatchKey} {action : Option Action}
    (hother : table ≠ .applications) (p p' : Option Int32) :
    Respells ⟨table, key, p, action⟩ ⟨table, key, p', action⟩

namespace MatchKey

/-- The order of matches on different fields does not matter to what is said. -/
theorem senseOf_eq_of_perm {ms ms' : List FieldMatch}
    (hdistinct : (ms.map FieldMatch.field).Nodup) (hperm : ms.Perm ms') :
    (MatchKey.mk ms).senseOf = (MatchKey.mk ms').senseOf := by
  funext field
  have hfind : (MatchKey.mk ms).find? field = (MatchKey.mk ms').find? field :=
    Keyed.find?_eq_of_perm hdistinct hperm field
  rw [senseOf, senseOf, hfind]

/-- A value that says the same does not matter to what is said. -/
theorem senseOf_append_cons {field : FieldId} {v v' : MatchValue} (hv : v.sense = v'.sense)
    (before after : List FieldMatch) :
    (MatchKey.mk (before ++ ⟨field, v⟩ :: after)).senseOf =
      (MatchKey.mk (before ++ ⟨field, v'⟩ :: after)).senseOf := by
  funext f
  have hfield : (FieldMatch.mk field v).field = (FieldMatch.mk field v').field := rfl
  have hsays : (FieldMatch.mk field v).value.sense = (FieldMatch.mk field v').value.sense := hv
  exact Keyed.map_find?_append_cons hfield (fun m => m.value.sense) hsays f before after

end MatchKey

namespace Action

variable {id : ActionId}

/-- Actions of one name say the same if the parameters that are read denote the same. -/
theorem sense_eq_of_numberOf_eq {ps ps' : List ActionParam}
    (hnumbers : ∀ param, id.Reads param →
      (Action.mk id ps).numberOf param = (Action.mk id ps').numberOf param) :
    (Action.mk id ps).sense = (Action.mk id ps').sense := by
  refine Prod.ext rfl (funext fun param => ?_)
  by_cases hreads : id.Reads param
  · simpa only [sense, if_pos hreads] using hnumbers param hreads
  · simp only [sense, if_neg hreads]

/-- The order of parameters with different names does not matter to what is said. -/
theorem sense_eq_of_perm {ps ps' : List ActionParam}
    (hdistinct : (ps.map ActionParam.id).Nodup) (hperm : ps.Perm ps') :
    (Action.mk id ps).sense = (Action.mk id ps').sense := by
  refine sense_eq_of_numberOf_eq fun param _ => ?_
  have hfind : (Action.mk id ps).param? param = (Action.mk id ps').param? param :=
    Keyed.find?_eq_of_perm hdistinct hperm param
  rw [numberOf, numberOf, hfind]

/-- Leading zeros of a parameter do not matter to what is said. -/
theorem sense_append_padded (before after : List ActionParam) (param : ParamId) (b : ByteString)
    (zeros : Nat) :
    (Action.mk id (before ++ ⟨param, b⟩ :: after)).sense =
      (Action.mk id (before ++ ⟨param, b.padded zeros⟩ :: after)).sense := by
  refine sense_eq_of_numberOf_eq fun other _ => ?_
  have hid : (ActionParam.mk param b).id = (ActionParam.mk param (b.padded zeros)).id := rfl
  have hvalue : (ActionParam.mk param b).value.value =
      (ActionParam.mk param (b.padded zeros)).value.value := (b.value_padded zeros).symm
  exact Keyed.map_find?_append_cons hid (fun p => p.value.value) hvalue other before after

/-- A parameter that is not read does not matter to what is said. -/
theorem sense_append_unread {p : ActionParam} (hunread : ¬id.Reads p.id)
    (before after : List ActionParam) :
    (Action.mk id (before ++ after)).sense = (Action.mk id (before ++ p :: after)).sense := by
  refine sense_eq_of_numberOf_eq fun param hreads => ?_
  -- what is looked for has another name, so it is found past the addition
  have hname : p.id ≠ param := by
    rintro rfl
    exact hunread hreads
  have hfind : (Action.mk id (before ++ p :: after)).param? param =
      (Action.mk id (before ++ after)).param? param :=
    Keyed.find?_append_cons_of_ne hname before after
  rw [numberOf, numberOf, hfind]

end Action

namespace TableEntry

variable {entry entry' : TableEntry}

/-- One change leaves what an entry says as it is. -/
theorem Respells.sense_eq (h : Respells entry entry') : entry.sense = entry'.sense := by
  cases h with
  | @matchOrder table ms ms' priority action hdistinct hperm =>
    have hfields : (fun f => f ∈ ms.map fun m => Pipeline.MatchField.mk m.field m.kind) =
        fun f => f ∈ ms'.map fun m => Pipeline.MatchField.mk m.field m.kind := by
      funext f
      exact propext (hperm.map _).mem_iff
    rw [sense, sense]
    dsimp only
    rw [hfields, MatchKey.senseOf_eq_of_perm hdistinct hperm]
  | @matchValue table before after field v v' priority action hv =>
    have hfields : (before ++ ⟨field, v⟩ :: after).map
          (fun m => Pipeline.MatchField.mk m.field m.kind) =
        (before ++ ⟨field, v'⟩ :: after).map fun m => Pipeline.MatchField.mk m.field m.kind := by
      simp only [List.map_append, List.map_cons, FieldMatch.kind, hv.kind_eq]
    rw [sense, sense]
    dsimp only
    rw [hfields, MatchKey.senseOf_append_cons hv.sense_eq]
  | @paramOrder table key priority id ps ps' hdistinct hperm =>
    rw [sense, sense]
    dsimp only
    rw [Option.map_some, Option.map_some, Action.sense_eq_of_perm hdistinct hperm]
  | @paramValue table key priority id before after param b zeros =>
    rw [sense, sense]
    dsimp only
    rw [Option.map_some, Option.map_some, Action.sense_append_padded]
  | @unreadParam table key priority id before after p hunread =>
    rw [sense, sense]
    dsimp only
    rw [Option.map_some, Option.map_some, Action.sense_append_unread hunread]
  | @priority table key action hother p p' =>
    rw [sense, sense]
    dsimp only
    rw [if_neg hother, if_neg hother]

/-- Any number of changes, made or undone, leave what an entry says as it is. -/
theorem sense_eq_of_respelled (h : Relation.EqvGen Respells entry entry') :
    entry.sense = entry'.sense := by
  induction h with
  | rel _ _ hchange => exact hchange.sense_eq
  | refl _ => rfl
  | symm _ _ _ ih => exact ih.symm
  | trans _ _ _ _ _ ih ih' => exact ih.trans ih'

/-- **An entry decodes to the same entity however it is spelled.** -/
theorem decode_eq_ok_iff_of_respelled (h : Relation.EqvGen Respells entry entry') (e : Entity) :
    entry.decode = .ok e ↔ entry'.decode = .ok e := by
  have hsense : entry.sense = entry'.sense := sense_eq_of_respelled h
  exact ⟨decode_of_sense_eq hsense, decode_of_sense_eq hsense.symm⟩

/-- An entry for an interface, as it is written. -/
def writtenInterface : TableEntry where
  table := .interfaces
  matchKey := ⟨[⟨.destinationPrefix, .longestPrefix ⟨[10, 20, 0, 0]⟩ 14⟩]⟩
  priority := none
  action := some ⟨.setSourceInterface,
    [⟨.sourceInterface, ⟨[1]⟩⟩, ⟨.direction, ⟨[1]⟩⟩, ⟨.slice, ⟨[0]⟩⟩]⟩

/-- The entry of `writtenInterface` as a device may give it back: with host bits and a longer value,
with a priority, and with its parameters the other way round and one of them gone. -/
def returnedInterface : TableEntry where
  table := .interfaces
  matchKey := ⟨[⟨.destinationPrefix, .longestPrefix ⟨[0, 10, 20, 3, 9]⟩ 14⟩]⟩
  priority := some 5
  action := some ⟨.setSourceInterface, [⟨.direction, ⟨[1]⟩⟩, ⟨.sourceInterface, ⟨[0, 0, 1]⟩⟩]⟩

/-- The entry for an interface that is written and the one that a device gives back differ by
changes that respell an entry. -/
theorem eqvGen_returnedInterface :
    Relation.EqvGen Respells writtenInterface returnedInterface := by
  have hbits : ∀ i, Prefix.hostBits (14 : UInt32).toNat ≤ i →
      (ByteString.mk [10, 20, 0, 0]).value.testBit i =
        (ByteString.mk [10, 20, 3, 9]).value.testBit i := by
    intro i hi
    rw [← Nat.sub_add_cancel hi, ← Nat.testBit_div_two_pow, ← Nat.testBit_div_two_pow]
    rfl
  have hnames : ([⟨.sourceInterface, ⟨[1]⟩⟩, ⟨.direction, ⟨[1]⟩⟩].map ActionParam.id).Nodup := by
    decide
  -- first the match key
  refine .trans _ _ _ (.rel _ _ (@Respells.matchValue _ [] [] _ _ _ _ _ (.hostBits hbits))) ?_
  refine .trans _ _ _ (.rel _ _ (@Respells.matchValue _ [] [] _ _ _ _ _ (.longestPrefix _ _ 1))) ?_
  refine .trans _ _ _ (.rel _ _ (.priority (by decide) _ (some 5))) ?_
  -- then the action, which loses its slice before the rest changes places
  have hslice : ¬ActionId.setSourceInterface.Reads .slice := by decide
  refine .trans _ _ _ (.symm _ _ (.rel _ _ (@Respells.unreadParam _ _ _ _ [_, _] [] _ hslice))) ?_
  refine .trans _ _ _ (.rel _ _ (.paramOrder hnames (.swap _ _ _))) ?_
  exact .rel _ _ (@Respells.paramValue _ _ _ _ [_] [] _ _ 2)

/-- The interface is read from what the device gives back. -/
theorem decode_returnedInterface :
    Relation.EqvGen Respells writtenInterface returnedInterface ∧
      returnedInterface.decode =
        .ok (.interface ⟨⟨⟨0x0a140000⟩, 14, by decide, by decide⟩, .access, 0⟩) := by
  refine ⟨eqvGen_returnedInterface, ?_⟩
  exact (decode_eq_ok_iff_of_respelled eqvGen_returnedInterface _).mp rfl

end TableEntry

end UserPlane
