import UserPlane.Proofs.Acceptance
import UserPlane.Proofs.Emission
import Mathlib.Data.List.Nodup
import Mathlib.Data.List.Pairwise

/-! # Kinds by name alone

A table entry is classified by the name of its table, a counter cell by the name of its bank, and
nothing else of either is looked at. The translations look at more, and yet agree: an entry **is of
no kind exactly if it is refused for its table** (`TableEntry.kind?_eq_none_iff`), since whatever
else is refused is refused in other words; an entry that decodes, or that is emitted, is of the kind
of its entity. No two tables take one action (`Pipeline.eq_of_mem_actions`), so an entry that
decodes does so in its own table only (`TableEntry.decode_moved`). -/

namespace UserPlane

/-! ## Refused for the table -/

/-- A failure to read what the kind of an entity needs. -/
inductive DecodeError.OfReading : DecodeError → Prop where
  /-- The side is neither of the two. -/
  | side (side : UInt8) : OfReading (.unsupportedSide side)
  /-- A part cannot be read. -/
  | field (cause : FieldError) : OfReading (.field cause)
  /-- The parts do not make an entity. -/
  | entity (cause : EntityError) : OfReading (.entity cause)

namespace Decoding

open DecodeError

variable {α : Type}

/-- A part that cannot be read is a failure to read. -/
theorem failsOnly_field (x : Except FieldError α) :
    FailsOnly OfReading (liftM x : Except DecodeError α) :=
  .mapError OfReading.field

/-- A draft that cannot be finished is a failure to read. -/
theorem failsOnly_entity (x : Except EntityError α) :
    FailsOnly OfReading (liftM x : Except DecodeError α) :=
  .mapError OfReading.entity

/-- A side that is neither the access nor the core side is a failure to read. -/
theorem failsOnly_roleOf (side : UInt8) : FailsOnly OfReading (roleOf side) := by
  rw [roleOf]
  split
  · exact .ok _
  · split
    · exact .ok _
    · exact .error (.side side)

section Behaviour

variable (a : Action)

/-- An action of downlink sessions that cannot be read is a failure to read. -/
theorem failsOnly_downlinkBehaviour : FailsOnly OfReading (downlinkBehaviour a) := by
  rw [downlinkBehaviour]
  split
  · exact .ok _
  · split
    · exact .ok _
    · exact .bind (failsOnly_field _) fun _ => .ok _

/-- An action of uplink terminations that cannot be read is a failure to read. -/
theorem failsOnly_uplinkBehaviour : FailsOnly OfReading (uplinkBehaviour a) := by
  rw [uplinkBehaviour]
  split
  · exact .ok _
  · split
    · exact .bind (failsOnly_field _) fun _ => .ok _
    · exact .ok _

/-- An action of downlink terminations that cannot be read is a failure to read. -/
theorem failsOnly_downlinkForwarding : FailsOnly OfReading (downlinkForwarding a) := by
  rw [downlinkForwarding]
  split
  · exact .ok _
  · refine .bind (failsOnly_field _) fun teid => .bind (failsOnly_field _) fun qfi => ?_
    split
    · exact .bind (failsOnly_field _) fun _ => .ok _
    · exact .ok _

/-- Whatever is refused once the kind is known is a failure to read. -/
theorem failsOnly_entityOf {kind : EntityKind} (hkind : kind ≠ .counter) (entry : TableEntry) :
    FailsOnly OfReading (entityOf kind entry a) := by
  cases kind with
  | interface =>
    refine .map (.bind (failsOnly_field _) fun side => .bind (failsOnly_roleOf side) fun _ => ?_) _
    exact .bind (failsOnly_field _) fun network => failsOnly_entity _
  | uplinkSession =>
    refine .map (.bind (failsOnly_field _) fun destination => ?_) _
    exact .bind (failsOnly_field _) fun teid => failsOnly_entity _
  | downlinkSession =>
    refine .map (.bind (failsOnly_field _) fun ue => ?_) _
    exact .bind (failsOnly_downlinkBehaviour a) fun behaviour => failsOnly_entity _
  | uplinkTermination =>
    refine .map (.bind (failsOnly_field _) fun ue => .bind (failsOnly_field _) fun app => ?_) _
    refine .bind (failsOnly_field _) fun counter => ?_
    exact .bind (failsOnly_uplinkBehaviour a) fun behaviour => failsOnly_entity _
  | downlinkTermination =>
    refine .map (.bind (failsOnly_field _) fun ue => .bind (failsOnly_field _) fun app => ?_) _
    refine .bind (failsOnly_field _) fun counter => ?_
    exact .bind (failsOnly_downlinkForwarding a) fun behaviour => failsOnly_entity _
  | tunnelPeer =>
    refine .map (.bind (failsOnly_field _) fun id => .bind (failsOnly_field _) fun source => ?_) _
    refine .bind (failsOnly_field _) fun destination => .bind (failsOnly_field _) fun port => ?_
    exact failsOnly_entity _
  | application =>
    refine .map (.bind (failsOnly_field _) fun id => .bind (failsOnly_field _) fun priority => ?_) _
    refine .bind (failsOnly_field _) fun network => .bind (failsOnly_field _) fun ports => ?_
    exact .bind (failsOnly_field _) fun protocol => failsOnly_entity _
  | counter => exact absurd rfl hkind

end Behaviour

end Decoding

/-- No table holds counters. -/
theorem Pipeline.kind_ne_counter {t : Table} (ht : t ∈ tables) : t.kind ≠ .counter := by
  have hall : ∀ t ∈ tables, t.kind ≠ .counter := by decide
  exact hall t ht

namespace TableEntry

variable {entry : TableEntry}

/-- An entry of a table of the pipeline may be refused, but not for its table. -/
theorem failsOnly_toEntity {t : Pipeline.Table}
    (htable : Pipeline.tableNamed? entry.table = some t) :
    FailsOnly (· ≠ .unknownTable) entry.toEntity := by
  have hread : ∀ cause : DecodeError, cause.OfReading → cause ≠ .unknownTable := by
    rintro _ (_ | _ | _) ⟨⟩
  have hkind : t.kind ≠ .counter :=
    Pipeline.kind_ne_counter (Pipeline.tableNamed?_eq_some_iff.mp htable).1
  have haction : FailsOnly (· ≠ .unknownTable) (Decoding.acceptedAction t entry) := by
    rw [Decoding.acceptedAction]
    refine .bind ((Decoding.failsOnly_field _).imp hread) fun a => ?_
    split
    · exact .ok a
    · refine .error ?_
      rintro ⟨⟩
  rw [toEntity, htable]
  refine .bind haction fun a => .bind ?_ fun _ => ?_
  · refine .mapError ?_
    rintro cause ⟨⟩
  · exact (Decoding.failsOnly_entityOf a hkind entry).imp hread

/-- An entry is refused for its table exactly if the pipeline has no table of that name. -/
theorem toEntity_eq_unknownTable_iff :
    entry.toEntity = .error .unknownTable ↔ Pipeline.tableNamed? entry.table = none := by
  cases htable : Pipeline.tableNamed? entry.table with
  | none => simp [toEntity, htable]
  | some t =>
    refine iff_of_false ?_ (Option.some_ne_none t)
    intro h
    exact failsOnly_toEntity htable _ h rfl

end TableEntry

/-! ## Other words -/

/-- A text begins with a character. -/
def Opens (c : Char) (text : String) : Prop := text.toList.head? = some c

namespace Opens

variable {c d : Char} {text other : String}

/-- A text that begins with a character still does if more text follows. -/
theorem append (h : Opens c text) (more : String) : Opens c (text ++ more) := by
  rw [Opens, String.toList_append, List.head?_append, h]
  rfl

/-- Texts that begin with different characters are different. -/
theorem ne (h : Opens c text) (h' : Opens d other) (hcd : c ≠ d) : text ≠ other := by
  rintro rfl
  exact hcd (Option.some.inj (h.symm.trans h'))

end Opens

/-- What is wrong with a match key does not begin like a refusal for the table. -/
theorem Pipeline.MatchKeyError.exists_opens_message (cause : MatchKeyError) :
    ∃ c ≠ 'n', Opens c cause.message := by
  cases cause with
  | unknownField table field =>
    exact ⟨'t', by decide, .append (.append (.append (.append (by rfl) _) _) _) _⟩
  | wrongKind field expected actual =>
    exact ⟨'m', by decide, .append (.append (.append (.append (.append (by rfl) _) _) _) _) _⟩

/-- What is wrong with a part of an entry does not begin like a refusal for the table. -/
theorem FieldError.exists_opens_message (cause : FieldError) :
    ∃ c ≠ 'n', Opens c cause.message := by
  cases cause with
  | missingField field => exact ⟨'m', by decide, .append (.append (by rfl) _) _⟩
  | wrongKind field expected actual =>
    exact ⟨'m', by decide, .append (.append (.append (.append (.append (by rfl) _) _) _) _) _⟩
  | missingParam param => exact ⟨'m', by decide, .append (.append (by rfl) _) _⟩
  | missingAction => exact ⟨'t', by decide, rfl⟩
  | missingPriority => exact ⟨'t', by decide, rfl⟩
  | invalidValue name cause => exact ⟨'i', by decide, .append (.append (.append (by rfl) _) _) _⟩
  | invalidLength field length =>
    exact ⟨'i', by decide, .append (.append (.append (.append (by rfl) _) _) _) _⟩
  | partialMask field mask =>
    exact ⟨'t', by decide, .append (.append (.append (by rfl) _) _) _⟩
  | emptyRange field range =>
    exact ⟨'r', by decide, .append (.append (.append (.append (by rfl) _) _) _) _⟩

/-- What is wrong with a draft does not begin like a refusal for the table. -/
theorem EntityError.exists_opens_message (cause : EntityError) :
    ∃ c ≠ 'n', Opens c cause.message := by
  cases cause with
  | missingField kind field =>
    have hname : ∃ c ≠ 'n', Opens c kind.name := by
      cases kind with
      | _ => exact ⟨_, by decide, rfl⟩
    obtain ⟨c, hc, hopens⟩ := hname
    exact ⟨c, hc, .append (.append (.append hopens _) _) _⟩
  | invalidPortRange range => exact ⟨'i', by decide, .append (by rfl) _⟩

namespace DecodeError

variable {cause : DecodeError}

/-- A refusal for anything but the table does not begin like a refusal for the table. -/
theorem exists_opens_message (h : cause ≠ .unknownTable) : ∃ c ≠ 'n', Opens c cause.message := by
  cases cause with
  | unknownTable => exact absurd rfl h
  | unexpectedAction table action =>
    exact ⟨'a', by decide, .append (.append (.append (.append (by rfl) _) _) _) _⟩
  | unsupportedSide side => exact ⟨'u', by decide, .append (by rfl) _⟩
  | matchKey cause => exact cause.exists_opens_message
  | field cause => exact cause.exists_opens_message
  | entity cause => exact cause.exists_opens_message

/-- The wording tells whether an entry is refused for its table. -/
theorem message_eq_iff : cause.message = "not a UP4 table" ↔ cause = .unknownTable := by
  constructor
  · intro h
    by_contra hne
    obtain ⟨c, hc, hopens⟩ := exists_opens_message hne
    have htable : Opens 'n' "not a UP4 table" := rfl
    exact hopens.ne htable hc h
  · rintro rfl
    rfl

end DecodeError

/-! ## Table entries -/

namespace TableEntry

variable {entry : TableEntry} {e : Entity}

/-- An entry is of the kind that its table holds. -/
theorem kind?_eq_some_iff {kind : EntityKind} :
    entry.kind? = some kind ↔ ∃ t ∈ Pipeline.tables, t.id = entry.table ∧ t.kind = kind := by
  rw [kind?, Option.map_eq_some_iff]
  simp only [Pipeline.tableNamed?_eq_some_iff, and_assoc]

/-- **An entry is of no kind exactly if it is refused for its table**, and said to be. -/
theorem kind?_eq_none_iff :
    entry.kind? = none ↔ ∃ u, entry.decode = .error u ∧ u.reason = "not a UP4 table" := by
  rw [kind?, Option.map_eq_none_iff, ← toEntity_eq_unknownTable_iff, decode]
  cases htoEntity : entry.toEntity with
  | ok e => exact iff_of_false nofun fun ⟨u, hu, _⟩ => by cases hu
  | error cause =>
    rw [Except.error.injEq, ← DecodeError.message_eq_iff]
    constructor
    · intro h
      exact ⟨_, rfl, h⟩
    · rintro ⟨u, ⟨⟩, h⟩
      exact h

/-- No entry is a counter. -/
theorem kind?_ne_counter : entry.kind? ≠ some .counter := by
  intro h
  obtain ⟨t, ht, -, hkind⟩ := kind?_eq_some_iff.mp h
  exact Pipeline.kind_ne_counter ht hkind

/-- An entry that decodes is of the kind of its entity. -/
theorem kind?_of_decode (h : entry.decode = .ok e) : entry.kind? = some e.kind := by
  obtain ⟨t, ht, -, hkind, hid, -⟩ := told_of_decode h
  exact kind?_eq_some_iff.mpr ⟨t, ht, hid.symm, hkind⟩

end TableEntry

/-- An entry that is emitted is of the kind of its entity. -/
theorem Entity.kind?_of_encode {e : Entity} {r : EncodedEntry} (h : e.encode = .ok r) :
    r.entry.kind? = some e.kind := by
  obtain ⟨t, parts, ht, -, rfl⟩ := encode_eq_ok_iff.mp h
  obtain ⟨hmem, hkind⟩ := Pipeline.tableFor?_eq_some_iff.mp ht
  exact TableEntry.kind?_eq_some_iff.mpr ⟨t, hmem, rfl, hkind⟩

/-! ## Other tables -/

/-- No two tables take one action. -/
theorem Pipeline.eq_of_mem_actions {t t' : Table} (ht : t ∈ tables) (ht' : t' ∈ tables)
    {a : ActionId} (ha : a ∈ t.actions) (ha' : a ∈ t'.actions) : t = t' := by
  have hnodup : (tables.flatMap Table.actions).Nodup := by decide
  obtain ⟨-, hdisjoint⟩ := List.nodup_flatMap.mp hnodup
  have hsymm : Std.Symm (Function.onFun List.Disjoint Table.actions) :=
    ⟨fun _ _ h => List.disjoint_symm h⟩
  by_contra hne
  exact hdisjoint.forall ht ht' hne ha ha'

/-- An entry that decodes is refused in any other table. -/
theorem TableEntry.decode_moved {entry : TableEntry} {e : Entity} (h : entry.decode = .ok e)
    {id : TableId} (hid : id ≠ entry.table) :
    ∃ u, ({ entry with table := id } : TableEntry).decode = .error u := by
  cases hmoved : ({ entry with table := id } : TableEntry).decode with
  | error u => exact ⟨u, rfl⟩
  | ok e' =>
    -- both tables would take the action
    obtain ⟨t, ht, a, -, htable, haction, haccepted, -⟩ := told_of_decode h
    obtain ⟨t', ht', a', -, htable', haction', haccepted', -⟩ := told_of_decode hmoved
    obtain rfl : a = a' := Option.some.inj (haction.symm.trans haction')
    obtain rfl : t = t' := Pipeline.eq_of_mem_actions ht ht' haccepted haccepted'
    exact absurd (htable'.trans htable.symm) hid

/-! ## Counter cells -/

/-- The banks that count user-plane traffic are those before and after quality of service. -/
theorem Pipeline.countsTraffic_iff {counter : CounterId} :
    countsTraffic counter = true ↔ counter = .beforeQos ∨ counter = .afterQos := by
  rw [countsTraffic, List.contains_iff_mem, counters, List.mem_pair]

namespace CounterCell

variable {cell : CounterCell}

/-- A cell is a counter exactly if it is in one of the two banks that count user-plane traffic. -/
theorem kind?_eq_some_counter_iff :
    cell.kind? = some .counter ↔ cell.counter = .beforeQos ∨ cell.counter = .afterQos := by
  rw [← Pipeline.countsTraffic_iff, kind?, Option.ite_none_right_eq_some]
  exact and_iff_left rfl

/-- A cell is of no kind exactly if it is in neither of the two banks that count user-plane
traffic. -/
theorem kind?_eq_none_iff :
    cell.kind? = none ↔ ¬(cell.counter = .beforeQos ∨ cell.counter = .afterQos) := by
  rw [← Pipeline.countsTraffic_iff, kind?, ite_eq_right_iff]
  exact imp_congr_right fun _ => iff_of_false nofun id

/-- No bank is named like a table. -/
theorem kind?_tableName {t : Pipeline.Table} (ht : t ∈ Pipeline.tables) (index : UInt64) :
    kind? ⟨⟨t.id.name⟩, index⟩ = none := by
  have hall : ∀ t ∈ Pipeline.tables,
      ¬(CounterId.mk t.id.name = .beforeQos ∨ CounterId.mk t.id.name = .afterQos) := by
    decide
  exact kind?_eq_none_iff.mpr (hall t ht)

end CounterCell

/-! ## Agreement -/

namespace DeviceEntity

/-- **Kinds are told alike by name and by translation.** A table entry is of no kind exactly if it
is refused for its table, and never a counter. If it decodes, it is of the kind of its entity, and
refused in any other table; and what is emitted for an entity is of its kind. A counter cell is a
counter if its bank is one of the two, wherever in the bank it is, and of no kind otherwise, even if
the bank is named like a table. -/
theorem kind?_agrees :
    (∀ entry : TableEntry,
        ((tableEntry entry).kind? = none ↔
          ∃ u, entry.decode = .error u ∧ u.reason = "not a UP4 table") ∧
        (tableEntry entry).kind? ≠ some .counter ∧
        ∀ e, entry.decode = .ok e →
          (tableEntry entry).kind? = some e.kind ∧
            ∀ id, id ≠ entry.table →
              ∃ u, ({ entry with table := id } : TableEntry).decode = .error u) ∧
      (∀ (e : Entity) (r : EncodedEntry), e.encode = .ok r →
        (tableEntry r.entry).kind? = some e.kind) ∧
      (∀ cell : CounterCell,
        ((counterCell cell).kind? = some .counter ↔
          cell.counter = .beforeQos ∨ cell.counter = .afterQos) ∧
        ((counterCell cell).kind? = none ↔
          ¬(cell.counter = .beforeQos ∨ cell.counter = .afterQos))) ∧
      ∀ t ∈ Pipeline.tables, ∀ index, (counterCell ⟨⟨t.id.name⟩, index⟩).kind? = none := by
  refine ⟨?_, ?_, ?_, ?_⟩
  · intro entry
    refine ⟨TableEntry.kind?_eq_none_iff, TableEntry.kind?_ne_counter, ?_⟩
    intro e h
    exact ⟨TableEntry.kind?_of_decode h, fun id hid => TableEntry.decode_moved h hid⟩
  · intro e r h
    exact Entity.kind?_of_encode h
  · intro cell
    exact ⟨CounterCell.kind?_eq_some_counter_iff, CounterCell.kind?_eq_none_iff⟩
  · intro t ht index
    exact CounterCell.kind?_tableName ht index

/-- An entry of a session that is admitted. -/
def admittedSession : TableEntry :=
  { table := .uplinkSessions
    matchKey := .ofMatches [.ofAddress .n3Address ⟨0x0a000001⟩, .ofWord .teid 300]
    priority := none
    action := some ⟨.setUplinkSession, []⟩ }

/-- The entry of an admitted session is an uplink session, and is refused among the downlink
sessions, though it would be one of them by name. -/
theorem kind?_admittedSession :
    (tableEntry admittedSession).kind? = some .uplinkSession ∧
      (∃ u, ({ admittedSession with table := .downlinkSessions } : TableEntry).decode =
        .error u) ∧
      (tableEntry { admittedSession with table := .downlinkSessions }).kind? =
        some .downlinkSession := by
  obtain ⟨-, -, hdecodes⟩ := kind?_agrees.1 admittedSession
  obtain ⟨hkind, hmoved⟩ := hdecodes (.uplinkSession ⟨⟨0x0a000001⟩, 300, false⟩) rfl
  exact ⟨hkind, hmoved .downlinkSessions (by decide), rfl⟩

end DeviceEntity

end UserPlane
