import UserPlane.Json.Wire
import UserPlane.Proofs.Json.Shape

/-! # Wire values that are written and read

What is written as a string is read by its own reader: byte strings, addresses, prefixes and names.
A field match shares its object with its match value, whose record is read past the field and
without the tag (`MatchValue.ofRecord?_members`). From parameters and field matches the forms go up
to actions, match keys, table entries and device entities, each record read back from the slots of
its fields. So **whatever wire value is written to a document is read from it**, in either layout:
names of any characters, fields matched twice, and parts that are not given at all. -/

namespace UserPlane

variable (room : Nat)

/-! ## Values written as strings -/

/-- A byte string is read from its text. -/
theorem ByteString.faithful : Json.Faithful room ByteString.toJson ByteString.ofJson? :=
  .text room ofText_text

/-- An address is read from its text. -/
theorem Address.faithful : Json.Faithful room Address.toJson Address.ofJson? := by
  refine .text room ?_
  intro a
  rw [ofText, text_toList, ofChars?_chars]

/-- A prefix is read from its text. -/
theorem Prefix.faithful : Json.Faithful room Prefix.toJson Prefix.ofJson? :=
  .text room ofText_text

/-- A table is read from its name. -/
theorem TableId.faithful : Json.Faithful room TableId.toJson TableId.ofJson? :=
  .string room fun _ => rfl

/-- A field is read from its name. -/
theorem FieldId.faithful : Json.Faithful room FieldId.toJson FieldId.ofJson? :=
  .string room fun _ => rfl

/-- An action is read from its name. -/
theorem ActionId.faithful : Json.Faithful room ActionId.toJson ActionId.ofJson? :=
  .string room fun _ => rfl

/-- A parameter is read from its name. -/
theorem ParamId.faithful : Json.Faithful room ParamId.toJson ParamId.ofJson? :=
  .string room fun _ => rfl

/-- A counter bank is read from its name. -/
theorem CounterId.faithful : Json.Faithful room CounterId.toJson CounterId.ofJson? :=
  .string room fun _ => rfl

/-! ## Match keys -/

/-- The fields of the match values of a kind. -/
def MatchKind.fields : MatchKind → List String
  | exact => ["value"]
  | longestPrefix => ["value", "prefix_len"]
  | ternary => ["value", "mask"]
  | range => ["low", "high"]

/-- A match kind is told by its tag. -/
theorem MatchKind.ofTagOrPlace?_tag (kind : MatchKind) :
    ofTagOrPlace? (.string kind.tag) = some kind := by
  cases kind <;> rfl

namespace MatchValue

/-- The slots of a match value's fields. -/
def slots : MatchValue → List (Option Json)
  | exact value => [some value.toJson]
  | longestPrefix value length => [some value.toJson, some (.ofNat length.toNat)]
  | ternary value mask => [some value.toJson, some mask.toJson]
  | range low high => [some low.toJson, some high.toJson]

/-- A match value is written next to its tag. -/
theorem untagged_members (v : MatchValue) : Json.Untagged room "type" v.members where
  printable := by
    have hbytes := (ByteString.faithful room).printable
    have hlength := (Json.Faithful.uint32 room).printable
    cases v <;> simp [members, hbytes, hlength]
  not_mem := by
    cases v <;> simp [members]

/-- The slots of a match value are read from its members, past any field. -/
theorem slots?_members (v : MatchValue) (field : Json) :
    Json.slots? v.kind.fields (.object (("field_id", field) :: v.members)) = some v.slots := by
  have hfield : "field_id" ∉ v.kind.fields := by
    generalize v.kind = kind
    cases kind <;> decide
  have hdistinct : v.kind.fields.Nodup := by
    generalize v.kind = kind
    cases kind <;> decide
  have hlength : v.kind.fields.length = v.slots.length := by
    cases v <;> rfl
  have hmembers : v.members = Json.filled (v.kind.fields.zip v.slots) := by
    cases v <;> rfl
  rw [Json.slots?_cons_of_not_mem hfield, hmembers, Json.slots?_filled hdistinct hlength]

/-- A match value is read from its members, past any field. -/
theorem ofRecord?_members (v : MatchValue) (field : Json) :
    ofRecord? v.kind (.object (("field_id", field) :: v.members)) = some v := by
  have hslots := v.slots?_members field
  have hbytes := (ByteString.faithful 0).required.read_fill
  have hnumber := (Json.Faithful.uint32 0).required.read_fill
  -- the kinds differ in their fields only
  cases v
  all_goals
    rw [kind, MatchKind.fields] at hslots
    rw [kind, ofRecord?, hslots]
    simp only [slots, Option.bind_eq_bind, Option.bind_some, hbytes, hnumber]

end MatchValue

namespace FieldMatch

/-- The field stands in front of the tag. -/
theorem untagged_field (m : FieldMatch) :
    Json.Untagged room "type" [("field_id", m.field.toJson)] where
  printable := List.forall_mem_singleton.mpr ((FieldId.faithful room).printable m.field)
  not_mem := by
    simp

/-- A field match is read from the object it shares with its match value. -/
theorem faithful : Json.Faithful (room + 1) toJson ofJson? where
  printable := by
    intro m
    exact Json.printable_tagged (m.untagged_field room) (.string room m.value.kind.tag)
      (m.value.untagged_members room)
  ne_null := by
    rintro m ⟨⟩
  read_write := by
    intro m
    -- the field is read first, with the tag still there; the tag is then taken away, and the record
    -- of the match value is read with the field still there
    have habsent : "field_id" ∉
        ((("type", .string m.value.kind.tag) :: m.value.members).map Prod.fst) := by
      cases m.value <;> simp [MatchValue.members]
    have hfield := (FieldId.faithful room).required.read_fill m.field
    have htagged := Json.tagged?_object (m.untagged_field room) (.string room m.value.kind.tag)
      (m.value.untagged_members room)
    rw [List.singleton_append, List.singleton_append] at htagged
    rw [toJson, ofJson?, Json.slot?_cons_self habsent, htagged]
    simp only [Option.bind_eq_bind, Option.bind_some, hfield, MatchKind.ofTagOrPlace?_tag,
      MatchValue.ofRecord?_members]

end FieldMatch

/-- A match key is read from the array of its field matches. -/
theorem MatchKey.faithful : Json.Faithful (room + 2) MatchKey.toJson MatchKey.ofJson? where
  printable := by
    intro key
    exact (FieldMatch.faithful room).array.printable key.fieldMatches
  ne_null := by
    rintro key ⟨⟩
  read_write := by
    intro key
    have hread := (FieldMatch.faithful room).array.read_write key.fieldMatches
    rw [toJson, ofJson?, hread]
    rfl

/-! ## Actions -/

/-- A parameter is read from its record. -/
theorem ActionParam.faithful :
    Json.Faithful (room + 1) ActionParam.toJson ActionParam.ofJson? := by
  have hid := (ParamId.faithful room).required
  have hvalue := (ByteString.faithful room).required
  refine (Json.FaithfulMembers.of_slots ["id", "value"]
    (fun p : ActionParam => [some p.id.toJson, some p.value.toJson]) (by decide) (fun _ => rfl)
    (fun _ => rfl) ?_ ?_).faithful
  · intro p
    simp only [List.forall_mem_cons]
    exact ⟨hid.printable p.id, hvalue.printable p.value, List.forall_mem_nil _⟩
  · intro p hslots
    rw [ofJson?, hslots]
    simp only [Option.bind_eq_bind, Option.bind_some, hid.read_fill, hvalue.read_fill]

/-- An action is read from its record. -/
theorem Action.faithful : Json.Faithful (room + 3) Action.toJson Action.ofJson? := by
  have hid := (ActionId.faithful (room + 2)).required
  have hparams := (ActionParam.faithful room).array.defaulted []
  refine (Json.FaithfulMembers.of_slots ["id", "params"]
    (fun a : Action => [some a.id.toJson, some (.array (a.params.map ActionParam.toJson))])
    (by decide) (fun _ => rfl) (fun _ => rfl) ?_ ?_).faithful
  · intro a
    simp only [List.forall_mem_cons]
    exact ⟨hid.printable a.id, hparams.printable a.params, List.forall_mem_nil _⟩
  · intro a hslots
    rw [ofJson?, hslots]
    simp only [Option.bind_eq_bind, Option.bind_some, hid.read_fill, hparams.read_fill]

/-! ## Table entries and counter cells -/

/-- A table entry is read from its record, whether or not it has a priority and an action. -/
theorem TableEntry.faithful : Json.Faithful (room + 4) TableEntry.toJson TableEntry.ofJson? := by
  have htable := (TableId.faithful (room + 3)).required
  have hmatchKey := (MatchKey.faithful (room + 1)).defaulted MatchKey.empty
  have hpriority := (Json.Faithful.int32 (room + 3)).optional
  have haction := (Action.faithful room).optional
  refine (Json.FaithfulMembers.of_slots ["table", "match_key", "priority", "action"]
    (fun e : TableEntry => [some e.table.toJson, some e.matchKey.toJson,
      e.priority.map fun p => .integer p.toInt, e.action.map Action.toJson])
    (by decide) (fun _ => rfl) ?_ ?_ ?_).faithful
  · rintro ⟨table, matchKey, _ | p, _ | a⟩ <;> rfl
  · intro e
    simp only [List.forall_mem_cons]
    exact ⟨htable.printable e.table, hmatchKey.printable e.matchKey,
      hpriority.printable e.priority, haction.printable e.action, List.forall_mem_nil _⟩
  · intro e hslots
    rw [ofJson?, hslots]
    simp only [Option.bind_eq_bind, Option.bind_some, htable.read_fill, hmatchKey.read_fill,
      hpriority.read_fill, haction.read_fill]

/-- A counter cell is read from its record. -/
theorem CounterCell.faithful :
    Json.Faithful (room + 1) CounterCell.toJson CounterCell.ofJson? := by
  have hcounter := (CounterId.faithful room).required
  have hindex := (Json.Faithful.uint64 room).required
  refine (Json.FaithfulMembers.of_slots ["counter_id", "index"]
    (fun c : CounterCell => [some c.counter.toJson, some (.ofNat c.index.toNat)])
    (by decide) (fun _ => rfl) (fun _ => rfl) ?_ ?_).faithful
  · intro c
    simp only [List.forall_mem_cons]
    exact ⟨hcounter.printable c.counter, hindex.printable c.index, List.forall_mem_nil _⟩
  · intro c hslots
    rw [ofJson?, hslots]
    simp only [Option.bind_eq_bind, Option.bind_some, hcounter.read_fill, hindex.read_fill]

/-- A device entity is read from the object whose only key says of what sort it is. -/
theorem DeviceEntity.faithful :
    Json.Faithful (room + 5) DeviceEntity.toJson DeviceEntity.ofJson? where
  printable := by
    intro v
    cases v with
    | tableEntry e =>
      exact .object (List.forall_mem_singleton.mpr ((TableEntry.faithful room).printable e))
    | counterCell c =>
      exact .object (List.forall_mem_singleton.mpr ((CounterCell.faithful (room + 3)).printable c))
  ne_null := by
    rintro (e | c) ⟨⟩
  read_write := by
    intro v
    cases v with
    | tableEntry e =>
      have hread := (TableEntry.faithful 0).read_write e
      rw [toJson, ofJson?, if_pos rfl, hread]
      rfl
    | counterCell c =>
      have hread := (CounterCell.faithful 0).read_write c
      rw [toJson, ofJson?, if_neg (by decide), if_pos rfl, hread]
      rfl

/-! ## Documents -/

/-- **Wire values are read from the documents they are written to**, in either layout: device
entities, table entries, match keys and actions. -/
theorem Json.readText_write_wire (layout : Layout) :
    (∀ v : DeviceEntity, readText DeviceEntity.ofJson? (write layout v.toJson) = .ok v) ∧
      (∀ e : TableEntry, readText TableEntry.ofJson? (write layout e.toJson) = .ok e) ∧
      (∀ key : MatchKey, readText MatchKey.ofJson? (write layout key.toJson) = .ok key) ∧
      ∀ a : Action, readText Action.ofJson? (write layout a.toJson) = .ok a := by
  refine ⟨?_, ?_, ?_, ?_⟩
  · exact (DeviceEntity.faithful 0).readText_write (by decide) layout
  · exact (TableEntry.faithful 0).readText_write (by decide) layout
  · exact (MatchKey.faithful 0).readText_write (by decide) layout
  · exact (Action.faithful 0).readText_write (by decide) layout

end UserPlane
