import UserPlane.Proofs.Format
import UserPlane.Proofs.Emission

/-! # Emitted entries and the declaration

The pipeline declares its tables, the fields that each matches on, the parameters that each action
takes and how many bytes a value has. An entry **conforms** to the declaration if it follows it to
the letter (`TableEntry.Conforms`), which is more than a reader asks for: no field and no parameter
comes twice, none is missing and each stands in its place, every value has its full width and no
more, prefixes have no host bits, ranges hold a value, and masks compare every bit. **Every entry
that is emitted conforms to the table of its kind** (`Entity.conforms_of_encode`). -/

namespace UserPlane

/-! ## Widths -/

/-- How many bytes a value of a field has. -/
def FieldId.width (field : FieldId) : Nat :=
  if field ∈ [destinationPrefix, n3Address, teid, ueAddress, applicationAddress] then 4
  else if field = applicationPort then 2
  else 1

/-- How many bytes a value of a parameter has. -/
def ParamId.width (param : ParamId) : Nat :=
  if param ∈ [counter, teid, source, destination] then 4
  else if param = sourcePort then 2
  else 1

/-! ## Field matches -/

/-- What a field of some width is compared with, written out in full. -/
inductive MatchValue.Conforms (width : Nat) : MatchValue → Prop where
  /-- A value of that width. -/
  | exact {b : ByteString} (hb : b.length = width) : Conforms width (.exact b)
  /-- A prefix of an address, without host bits. -/
  | longestPrefix {b : ByteString} {length : UInt32} (hb : b.length = width)
      (hlength : length.toNat ≤ 32)
      (hhost : ∀ i < Prefix.hostBits length.toNat, b.value.testBit i = false) :
    Conforms width (.longestPrefix b length)
  /-- A value of that width, all of whose bits count. -/
  | ternary {b : ByteString} (hb : b.length = width) : Conforms width (.ternary b (.ones width))
  /-- Two bounds of that width, in order. -/
  | range {low high : ByteString} (hlow : low.length = width) (hhigh : high.length = width)
      (hle : low.value ≤ high.value) : Conforms width (.range low high)

namespace FieldMatch

/-- A field match whose value is written out as wide as the field is. -/
def Conforms (m : FieldMatch) : Prop := m.value.Conforms m.field.width

variable {field : FieldId}

/-- One byte is as wide as a field of one byte. -/
theorem conforms_ofByte (hwidth : field.width = 1) (n : UInt8) : (ofByte field n).Conforms :=
  .exact hwidth.symm

/-- A word is as wide as a field of four bytes. -/
theorem conforms_ofWord (hwidth : field.width = 4) (n : UInt32) : (ofWord field n).Conforms :=
  .exact hwidth.symm

/-- An address is as wide as a field of four bytes. -/
theorem conforms_ofAddress (hwidth : field.width = 4) (a : Address) :
    (ofAddress field a).Conforms :=
  .exact hwidth.symm

/-- A prefix has no host bits. -/
theorem conforms_ofPrefix (hwidth : field.width = 4) (p : Prefix) :
    (ofPrefix field p).Conforms := by
  refine .longestPrefix hwidth.symm ?_ ?_
  · rw [UInt8.toNat_toUInt32]
    exact p.toNat_length_le
  · intro i hi
    rw [UInt8.toNat_toUInt32] at hi
    rw [ByteString.value_ofAddress]
    exact p.testBit_network hi

/-- A range that holds a port has its bounds in order. -/
theorem conforms_ofPorts (hwidth : field.width = 2) {r : PortRange} (hle : r.low ≤ r.high) :
    (ofPorts field r).Conforms := by
  refine .range hwidth.symm hwidth.symm ?_
  rw [ByteString.value_ofUInt16, ByteString.value_ofUInt16]
  exact hle

/-- A byte under a full mask is compared by all its bits. -/
theorem conforms_ofMaskedByte (hwidth : field.width = 1) (n : UInt8) :
    (ofMaskedByte field n).Conforms := by
  rw [Conforms, ofMaskedByte]
  dsimp only
  rw [hwidth]
  exact .ternary rfl

end FieldMatch

/-! ## Actions -/

/-- An action with each parameter that it takes, once, in place and written out in full. -/
structure Action.Conforms (a : Action) : Prop where
  /-- No parameter is given twice. -/
  distinct : (a.params.map ActionParam.id).Nodup
  /-- The parameters are those that the action takes. -/
  ids : a.params.map ActionParam.id = a.id.params
  /-- There is a class exactly if traffic is sent on in one. -/
  trafficClass : .trafficClass ∈ a.params.map ActionParam.id ↔
    a.id ∈ [.forwardUplink, .forwardDownlink]
  /-- There is an endpoint exactly if traffic is sent on through a tunnel. -/
  teid : .teid ∈ a.params.map ActionParam.id ↔
    a.id ∈ [.forwardDownlink, .forwardDownlinkUnclassified]
  /-- There is a flow exactly if traffic is sent on through a tunnel. -/
  qfi : .qfi ∈ a.params.map ActionParam.id ↔
    a.id ∈ [.forwardDownlink, .forwardDownlinkUnclassified]
  /-- There is a peer exactly if a downlink session is forwarded. -/
  tunnelPeer : .tunnelPeer ∈ a.params.map ActionParam.id ↔ a.id ∈ [.setDownlinkSession]
  /-- Each value is as wide as its parameter. -/
  widths : ∀ p ∈ a.params, p.value.length = p.id.width

/-- An action conforms if its parameters are those that it takes, with their widths. -/
theorem Action.conforms_of_map_eq {a : Action}
    (hids : a.params.map ActionParam.id = a.id.params)
    (hwidths : (a.params.map fun p => p.value.length) = a.params.map fun p => p.id.width) :
    a.Conforms where
  distinct := hids ▸ a.id.nodup_params
  ids := hids
  trafficClass := hids ▸ ActionId.trafficClass_mem_params_iff
  teid := hids ▸ ActionId.teid_mem_params_iff
  qfi := hids ▸ ActionId.qfi_mem_params_iff
  tunnelPeer := hids ▸ ActionId.tunnelPeer_mem_params_iff
  widths := List.map_inj_left.mp hwidths

/-! ## Entries -/

/-- The fields that an entity does not say what to match them with. Only an application has some:
those parts of the filter that it does not have. -/
def Entity.LeavesOpen (e : Entity) (field : FieldId) : Prop :=
  match e with
  | application app =>
    (field = .applicationAddress ∧ app.network = none) ∨
      (field = .applicationPort ∧ app.ports = none) ∨
      (field = .applicationProtocol ∧ app.protocol = none)
  | _ => False

/-- The priority of the entry that programs an entity; only applications have one. -/
def Entity.priority? : Entity → Option Int32
  | application app => some app.priority
  | _ => none

/-- An entry that a table declares, and that is written out in full for an entity. -/
structure TableEntry.Conforms (entry : TableEntry) (t : Pipeline.Table) (e : Entity) : Prop where
  /-- The entry is in the table. -/
  table : entry.table = t.id
  /-- No field is matched on twice. -/
  distinct : (entry.matchKey.fieldMatches.map FieldMatch.field).Nodup
  /-- The fields are declared with their kinds, and come in the order of the declaration. -/
  declared : (entry.matchKey.fieldMatches.map fun m =>
    (⟨m.field, m.kind⟩ : Pipeline.MatchField)).Sublist t.fields
  /-- A declared field is left out exactly if the entity leaves it open. -/
  complete : ∀ f ∈ t.fields, entry.matchKey.contains f.id = true ↔ ¬e.LeavesOpen f.id
  /-- Every field match is written out in full. -/
  values : ∀ m ∈ entry.matchKey.fieldMatches, m.Conforms
  /-- The table takes the action, which has its parameters and no others. -/
  action : ∃ a, entry.action = some a ∧ a.id ∈ t.actions ∧ a.Conforms
  /-- The priority is that of the entity. -/
  priority : entry.priority = e.priority?

namespace Emits

variable {e : Entity} {parts : EntryParts} {t : Pipeline.Table}

/-- No field is emitted twice. -/
theorem nodup_fields (h : Emits e parts) (ht : Pipeline.tableFor? e.kind = some t) :
    (parts.matchKey.fieldMatches.map FieldMatch.field).Nodup := by
  have hsub := (h.sublist_fields ht).map Pipeline.MatchField.id
  rw [List.map_map] at hsub
  exact hsub.nodup (Pipeline.Table.nodup_fieldIds (Pipeline.tableFor?_eq_some_iff.mp ht).1)

/-- A key with all the declared fields matches on each of them. -/
theorem contains_of_map_eq_fields {key : MatchKey}
    (hall : (key.fieldMatches.map fun m => (⟨m.field, m.kind⟩ : Pipeline.MatchField)) = t.fields) :
    ∀ f ∈ t.fields, key.contains f.id = true := by
  intro f hf
  rw [← hall] at hf
  obtain ⟨m, hm, rfl⟩ := List.mem_map.mp hf
  exact MatchKey.contains_iff.mpr ⟨m, hm, rfl⟩

/-- A filter matches on the parts that it has. -/
theorem contains_filterMatches_iff (app : Application) :
    ∀ f ∈ Pipeline.applications.fields, (MatchKey.mk app.filterMatches).contains f.id = true ↔
      ¬(Entity.application app).LeavesOpen f.id := by
  obtain ⟨hnetwork, hports, hprotocol⟩ := app.find?_filterMatches
  intro f hf
  simp only [Pipeline.applications, List.mem_cons, List.not_mem_nil, or_false] at hf
  -- the three fields have different names, so only one part is asked about each
  rcases hf with rfl | rfl | rfl
  · rw [MatchKey.contains, hnetwork, Option.isSome_map]
    simp +decide [Entity.LeavesOpen, Option.isSome_iff_ne_none]
  · rw [MatchKey.contains, hports, Option.isSome_map]
    simp +decide [Entity.LeavesOpen, Option.isSome_iff_ne_none]
  · rw [MatchKey.contains, hprotocol, Option.isSome_map]
    simp +decide [Entity.LeavesOpen, Option.isSome_iff_ne_none]

/-- What is emitted leaves out the declared fields that the entity leaves open, and no others. -/
theorem contains_iff_not_leavesOpen (h : Emits e parts) (ht : Pipeline.tableFor? e.kind = some t) :
    ∀ f ∈ t.fields, parts.matchKey.contains f.id = true ↔ ¬e.LeavesOpen f.id := by
  cases h with
  | application app hports =>
    cases ht
    exact contains_filterMatches_iff app
  | _ =>
    cases ht
    intro f hf
    exact iff_of_true (contains_of_map_eq_fields rfl f hf) not_false

/-- The match key of a termination is written out in full. -/
theorem forall_conforms_termination (ue : Address) (app : UInt8) :
    ∀ m ∈ [FieldMatch.ofAddress .ueAddress ue, FieldMatch.ofByte .application app],
      m.Conforms :=
  List.forall_mem_cons.mpr ⟨FieldMatch.conforms_ofAddress rfl ue,
    List.forall_mem_singleton.mpr (FieldMatch.conforms_ofByte rfl app)⟩

/-- The match key of an uplink session is written out in full. -/
theorem forall_conforms_uplinkSession (destination : Address) (teid : UInt32) :
    ∀ m ∈ [FieldMatch.ofAddress .n3Address destination, FieldMatch.ofWord .teid teid],
      m.Conforms :=
  List.forall_mem_cons.mpr ⟨FieldMatch.conforms_ofAddress rfl destination,
    List.forall_mem_singleton.mpr (FieldMatch.conforms_ofWord rfl teid)⟩

/-- The field matches of a filter are written out in full, if its ports hold one. -/
theorem forall_conforms_filterMatches {app : Application}
    (hports : ∀ r, app.ports = some r → r.low ≤ r.high) :
    ∀ m ∈ app.filterMatches, m.Conforms := by
  intro m hm
  simp only [Application.filterMatches, List.mem_append, List.mem_map, Option.mem_toList] at hm
  rcases hm with (⟨p, -, rfl⟩ | ⟨r, hr, rfl⟩) | ⟨n, -, rfl⟩
  · exact FieldMatch.conforms_ofPrefix rfl p
  · exact FieldMatch.conforms_ofPorts rfl (hports r hr)
  · exact FieldMatch.conforms_ofMaskedByte rfl n

/-- The field matches that are emitted are written out in full. -/
theorem forall_conforms (h : Emits e parts) : ∀ m ∈ parts.matchKey.fieldMatches, m.Conforms := by
  cases h with
  | accessInterface network slice | coreInterface network slice =>
    exact List.forall_mem_singleton.mpr (FieldMatch.conforms_ofPrefix rfl network)
  | admittedUplinkSession destination teid | droppedUplinkSession destination teid =>
    exact forall_conforms_uplinkSession destination teid
  | bufferedDownlinkSession ue | droppedDownlinkSession ue | forwardedDownlinkSession ue =>
    exact List.forall_mem_singleton.mpr (FieldMatch.conforms_ofAddress rfl ue)
  | droppedUplinkTermination ue app | classifiedUplinkTermination ue app
  | unclassifiedUplinkTermination ue app | droppedDownlinkTermination ue app
  | classifiedDownlinkTermination ue app | unclassifiedDownlinkTermination ue app =>
    exact forall_conforms_termination ue app
  | tunnelPeer p =>
    exact List.forall_mem_singleton.mpr (FieldMatch.conforms_ofByte rfl p.id)
  | application app hports => exact forall_conforms_filterMatches hports

/-- The action that is emitted has its parameters, written out in full. -/
theorem action_conforms (h : Emits e parts) : parts.action.Conforms := by
  cases h with
  | _ => exact Action.conforms_of_map_eq rfl rfl

/-- The priority that is emitted is that of the entity. -/
theorem priority_eq (h : Emits e parts) : parts.priority = e.priority? := by
  cases h with
  | _ => rfl

/-- What is emitted conforms to the table of the kind. -/
theorem conforms_entryIn (h : Emits e parts) (ht : Pipeline.tableFor? e.kind = some t) :
    (parts.entryIn t.id).Conforms t e where
  table := rfl
  distinct := h.nodup_fields ht
  declared := h.sublist_fields ht
  complete := h.contains_iff_not_leavesOpen ht
  values := h.forall_conforms
  action := ⟨parts.action, rfl, h.mem_actions ht, h.action_conforms⟩
  priority := h.priority_eq

end Emits

namespace Entity

/-- **Every entry that is emitted conforms to the table of its kind.** -/
theorem conforms_of_encode {e : Entity} {r : EncodedEntry} (h : e.encode = .ok r) :
    ∃ t, Pipeline.tableFor? e.kind = some t ∧ r.entry.Conforms t e := by
  obtain ⟨t, parts, ht, hparts, rfl⟩ := encode_eq_ok_iff.mp h
  exact ⟨t, ht, hparts.conforms_entryIn ht⟩

/-- The entry of a filter for part of a network, some of its ports and one protocol conforms to the
table of applications. -/
theorem conforms_of_encode_filter :
    ∃ r, (application ⟨7, -3, some ⟨⟨0x0a140000⟩, 14, by decide, by decide⟩, some ⟨80, 443⟩,
        some 17, 5⟩).encode = .ok r ∧
      r.entry.Conforms Pipeline.applications (application ⟨7, -3,
        some ⟨⟨0x0a140000⟩, 14, by decide, by decide⟩, some ⟨80, 443⟩, some 17, 5⟩) := by
  have hports : ∀ r, some (PortRange.mk 80 443) = some r → r.low ≤ r.high := by
    rintro _ ⟨⟩
    decide
  have h := encode_eq_ok_iff.mpr ⟨_, _, rfl, .application ⟨7, -3,
    some ⟨⟨0x0a140000⟩, 14, by decide, by decide⟩, some ⟨80, 443⟩, some 17, 5⟩ hports, rfl⟩
  obtain ⟨t, ht, hconforms⟩ := conforms_of_encode h
  cases ht
  exact ⟨_, h, hconforms⟩

end Entity

end UserPlane
