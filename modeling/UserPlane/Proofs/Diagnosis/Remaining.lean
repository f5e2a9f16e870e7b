import UserPlane.Proofs.Classification
import UserPlane.Proofs.Diagnosis

/-! # What can still go wrong

The reader of an entry checks the table, the action and the match key before it looks at the kind.
Once an entry is **accepted** (`TableEntry.Accepted`), most of what the later steps guard against
cannot happen. A field that the table declares is matched in the declared way wherever it is found,
even in a key that repeats it, because every match of the key has been checked. The kinds in which
the fields are read are the declared ones, a draft has been told all that it requires, and an empty
range of ports is refused before the draft is finished. So **the failures that remain** are those of
`DecodeError.Remaining` (`TableEntry.Accepted.failsOnly_toEntity`), and a failure is one of them
exactly if the entry is accepted (`TableEntry.remaining_iff_accepted`). -/

namespace UserPlane

/-! ## The failures that remain -/

/-- What can be wrong with the parts of an accepted entry. -/
inductive FieldError.Remaining : FieldError → Prop where
  /-- A field is not matched on. -/
  | missingField (field : FieldId) : Remaining (.missingField field)
  /-- A parameter is not given. -/
  | missingParam (param : ParamId) : Remaining (.missingParam param)
  /-- The priority is not given. -/
  | missingPriority : Remaining .missingPriority
  /-- A value does not fit. -/
  | invalidValue (name : String) (cause : ByteString.Error) : Remaining (.invalidValue name cause)
  /-- A prefix is too long. -/
  | invalidLength (field : FieldId) (length : UInt32) : Remaining (.invalidLength field length)
  /-- A mask is not full. -/
  | partialMask (field : FieldId) (mask : ByteString) : Remaining (.partialMask field mask)
  /-- A range is empty. -/
  | emptyRange (field : FieldId) (range : PortRange) : Remaining (.emptyRange field range)

/-- What can be wrong with an accepted entry: a part of it, or the side of its source interface. -/
inductive DecodeError.Remaining : DecodeError → Prop where
  /-- A part cannot be read. -/
  | field {cause : FieldError} (h : cause.Remaining) : Remaining (.field cause)
  /-- The side is neither of the two. -/
  | unsupportedSide (side : UInt8) : Remaining (.unsupportedSide side)

/-! ## The checks behind them -/

section Checks

open Pipeline ByteString

variable {t : Table} {entry : TableEntry} {a : Action} {c : Check} {checks : List Check}

/-- A check fails in the ways that remain, unless it asks whether a field match is declared. -/
theorem Check.Fails.remaining {cause : DecodeError} {reason : String}
    (h : c.Fails t entry a cause reason) (hc : ∀ m, c ≠ .declared m) : cause.Remaining := by
  cases h with
  | unknownField | wrongKind => exact absurd rfl (hc _)
  | missingField => exact .field (.missingField _)
  | missingParam => exact .field (.missingParam _)
  | tooWide => exact .field (.invalidValue _ _)
  | unknownSide => exact .unsupportedSide _
  | tooLong => exact .field (.invalidLength _ _)
  | emptyRange => exact .field (.emptyRange _ _)
  | partialMask => exact .field (.partialMask _ _)
  | missingPriority => exact .field .missingPriority

/-- No check of what a kind needs asks whether a field match is declared. -/
theorem Check.declared_not_mem_order (m : FieldMatch) (id : ActionId) (kind : EntityKind) :
    .declared m ∉ (order id kind).flatten := by
  have hfield : ∀ field width, .declared m ∉ ofField field width := by simp [ofField]
  have hparam : ∀ param width, .declared m ∉ ofParam param width := by simp [ofParam]
  have hforwarding : .declared m ∉ ofForwarding id := by
    rw [ofForwarding]
    by_cases hdrop : id = .dropDownlink
    · simp [hdrop]
    · by_cases hforward : id = .forwardDownlink <;> simp [hdrop, hforward, hparam]
  -- the action decides on checks of three kinds only
  cases kind with
  | interface => simp [order, ofPrefix, hparam]
  | uplinkSession => simp [order, hfield]
  | downlinkSession => by_cases hid : id = .setDownlinkSession <;> simp [order, hfield, hparam, hid]
  | uplinkTermination => by_cases hid : id = .forwardUplink <;> simp [order, hfield, hparam, hid]
  | downlinkTermination => simp [order, hfield, hparam, hforwarding]
  | tunnelPeer => simp [order, hfield, hparam]
  | application => simp [order, hparam, ofPrefix, ofPorts, ofMaskedByte]
  | counter => simp [order]

/-- A step that reports other checks fails in the ways that remain. -/
theorem Reports.failsOnly {α : Type} {x : Except DecodeError α} (h : Reports t entry a checks x)
    (hchecks : ∀ m, .declared m ∉ checks) : FailsOnly DecodeError.Remaining x := by
  rintro cause rfl
  obtain ⟨c, hc, hfails⟩ := FirstFailure.exists_mem h
  exact hfails.remaining fun m hm => hchecks m (hm ▸ hc)

/-- A step that reads a part of an entry and reports other checks fails in the ways that remain. -/
theorem Reports.failsOnly_field {α : Type} {x : Except FieldError α}
    (h : Reports t entry a checks (x.mapError .field)) (hchecks : ∀ m, .declared m ∉ checks) :
    FailsOnly FieldError.Remaining x := by
  rintro cause rfl
  cases h.failsOnly hchecks (.field cause) rfl with
  | field hremaining => exact hremaining

/-! ## Reading the declared fields -/

/-- The fields that a table declares can be read from a key, each in the way in which it is
declared: the reader may fail, but not for the way in which the field is matched. -/
structure Pipeline.Table.ReadableFrom (t : Table) (key : MatchKey) : Prop where
  /-- A byte is read from an exact match. -/
  byteOf : ∀ {field}, ⟨field, .exact⟩ ∈ t.fields → FailsOnly FieldError.Remaining (key.byteOf field)
  /-- A word is read from an exact match. -/
  wordOf : ∀ {field}, ⟨field, .exact⟩ ∈ t.fields → FailsOnly FieldError.Remaining (key.wordOf field)
  /-- An address is read from an exact match. -/
  addressOf : ∀ {field}, ⟨field, .exact⟩ ∈ t.fields →
    FailsOnly FieldError.Remaining (key.addressOf field)
  /-- A prefix is read from a prefix match. -/
  prefixOf : ∀ {field}, ⟨field, .longestPrefix⟩ ∈ t.fields →
    FailsOnly FieldError.Remaining (key.prefixOf field)
  /-- A range of ports is read from a range match. -/
  portsOf : ∀ {field}, ⟨field, .range⟩ ∈ t.fields →
    FailsOnly FieldError.Remaining (key.portsOf field)
  /-- A byte under a mask is read from a ternary match. -/
  maskedByteOf : ∀ {field}, ⟨field, .ternary⟩ ∈ t.fields →
    FailsOnly FieldError.Remaining (key.maskedByteOf field)

/-- The declared fields can be read from a key that matches them in the way the table declares. -/
theorem Pipeline.Table.KindsKeptBy.readableFrom (a : Action) (hkey : t.KindsKeptBy entry.matchKey) :
    t.ReadableFrom entry.matchKey := by
  have hexact {α : Type} {read : ByteString → Except ByteString.Error α} {toNat : α → Nat}
      {width : Nat} (hread : ByteString.Reads read toNat width) {field : FieldId}
      (hfield : ⟨field, .exact⟩ ∈ t.fields) :
      FailsOnly FieldError.Remaining
        (entry.matchKey.exactValue field >>= fun b => FieldError.naming field.name (read b)) := by
    have hreports : Reports t entry a _ _ := reports_readExact hread field (hkey hfield)
    exact hreports.failsOnly_field (by simp [Check.ofField])
  -- ports and protocol may be left out of a key, so their steps start from a match that is found
  constructor
  · exact hexact reads_toUInt8
  · exact hexact reads_toUInt32
  · exact hexact reads_toAddress
  · intro field hfield
    have hreports : Reports t entry a _ _ := reports_prefixOf field (hkey hfield)
    exact hreports.failsOnly_field (by simp [Check.ofPrefix])
  · intro field hfield
    rcases entry.matchKey.find?_eq_none_or field with hfind | ⟨v, hfind⟩
    · rw [MatchKey.portsOf, MatchKey.valueOf, hfind]
      exact .error (.missingField field)
    · have hreports : Reports t entry a _ _ :=
        reports_portsOf_of_find? hfind (hkey hfield v hfind)
      exact hreports.failsOnly_field (by simp [Check.ofPorts])
  · intro field hfield
    rcases entry.matchKey.find?_eq_none_or field with hfind | ⟨v, hfind⟩
    · rw [MatchKey.maskedByteOf, MatchKey.valueOf, hfind]
      exact .error (.missingField field)
    · have hreports : Reports t entry a _ _ :=
        reports_maskedByteOf_of_find? hfind (hkey hfield v hfind)
      exact hreports.failsOnly_field (by simp [Check.ofMaskedByte])

end Checks

/-! ## Accepted entries -/

namespace TableEntry

open Pipeline

/-- The checks that come before the kind is looked at have all been passed: the pipeline has the
table, the entry has an action that the table takes, and the match key keeps to the table. -/
structure Accepted (entry : TableEntry) (t : Table) (a : Action) : Prop where
  /-- The table is found. -/
  table : tableNamed? entry.table = some t
  /-- The action is taken. -/
  action : Decoding.acceptedAction t entry = .ok a
  /-- The match key is as declared. -/
  key : t.checkKey entry.matchKey = .ok ()

variable {entry : TableEntry} {t : Table} {a : Action} {cause : DecodeError}

namespace Accepted

/-- An accepted entry is translated by reading what the kind of its table needs. -/
theorem toEntity_eq (h : entry.Accepted t a) :
    entry.toEntity = Decoding.entityOf t.kind entry a := by
  rw [toEntity, h.table]
  simp only [h.action, h.key]
  rfl

/-- **An accepted entry fails in the ways that remain.** -/
theorem failsOnly_toEntity (h : entry.Accepted t a) :
    FailsOnly DecodeError.Remaining entry.toEntity := by
  have ht : t ∈ tables := (tableNamed?_eq_some_iff.mp h.table).1
  have ha : a.id ∈ t.actions := (Decoding.acceptedAction_eq_ok_iff.mp h.action).2
  rw [h.toEntity_eq]
  exact (reports_entityOf ht ha (Table.kindsKeptBy_of_checkKey ht h.key)).failsOnly
    fun m => Check.declared_not_mem_order m a.id t.kind

end Accepted

/-- **The failure tells how far the reader came**: it is one of those that remain exactly if the
entry is accepted. -/
theorem remaining_iff_accepted (h : entry.toEntity = .error cause) :
    cause.Remaining ↔ ∃ t a, entry.Accepted t a := by
  constructor
  · intro hremaining
    obtain ⟨reason, hrefused⟩ : ∃ reason, entry.Refused cause reason :=
      ⟨_, refused_of_toEntity_eq_error h⟩
    cases hrefused with
    | unknownTable => cases hremaining
    | missingAction => cases hremaining with | field hpart => cases hpart
    | unexpectedAction => cases hremaining
    | @check t a _ _ ht hid haction haccepted _ =>
      have htable := tableNamed?_eq_some_iff.mpr ⟨ht, hid⟩
      have htaken := Decoding.acceptedAction_eq_ok_iff.mpr ⟨haction, haccepted⟩
      -- a match key that breaks the declaration would have been reported itself
      cases hkey : t.checkKey entry.matchKey with
      | ok u => exact ⟨t, a, htable, htaken, hkey⟩
      | error broken =>
        have hreported : entry.toEntity = .error (.matchKey broken) := by
          rw [toEntity, htable]
          simp only [htaken, hkey]
          rfl
        cases h.symm.trans hreported
        cases hremaining
  · rintro ⟨t, a, haccepted⟩
    exact haccepted.failsOnly_toEntity cause h

/-- **Most of what the reader guards against cannot happen.** Once the table, the action and the
match key of an entry have been accepted, whether or not the key repeats a field:

* the kind of the table is not that of the counters, so that the reader goes on with a kind that it
  knows;
* the action is there whenever it is asked for;
* no reader of a field that the table declares fails because the field is matched in another way, or
  because there is no action;
* no draft of an entity lacks a field or has an empty range of ports;
* and so an entry that is not translated lacks a field, a parameter or the priority, has a value, a
  prefix length, a mask or a range that is invalid, or names a side that is unsupported. -/
theorem unreachable_of_accepted (h : entry.Accepted t a) :
    t.kind ≠ .counter ∧
    entry.requireAction = .ok a ∧
    t.ReadableFrom entry.matchKey ∧
    (∀ cause, Decoding.entityOf t.kind entry a ≠ .error (.entity cause)) ∧
    entry.toEntity = Decoding.entityOf t.kind entry a ∧
    ∀ u, entry.decode = .error u → ∃ cause, u = .entry entry cause ∧ cause.Remaining := by
  have ht : t ∈ tables := (tableNamed?_eq_some_iff.mp h.table).1
  have haction : entry.action = some a := (Decoding.acceptedAction_eq_ok_iff.mp h.action).1
  have hkey : t.KindsKeptBy entry.matchKey := Table.kindsKeptBy_of_checkKey ht h.key
  refine ⟨kind_ne_counter ht, requireAction_eq_ok_iff.mpr haction, hkey.readableFrom a, ?_,
    h.toEntity_eq, ?_⟩
  · intro cause hcause
    rw [← h.toEntity_eq] at hcause
    cases h.failsOnly_toEntity _ hcause
  · intro u hu
    rw [decode] at hu
    cases hresult : entry.toEntity with
    | ok e =>
      rw [hresult] at hu
      cases hu
    | error cause =>
      rw [hresult] at hu
      cases hu
      exact ⟨cause, rfl, h.failsOnly_toEntity cause hresult⟩

/-- An application whose key matches on the ports twice, first on a range without ports. -/
def twiceOnPorts : TableEntry :=
  ⟨.applications,
    ⟨[⟨.applicationPort, .range (.ofUInt16 2) (.ofUInt16 1)⟩,
      ⟨.applicationProtocol, .ternary (.ofUInt8 6) (.ofUInt8 255)⟩,
      ⟨.applicationPort, .range (.ofUInt16 1) (.ofUInt16 2)⟩]⟩,
    some 0, some ⟨.setApplication, [⟨.application, .ofUInt8 7⟩]⟩⟩

/-- The application that matches on the ports twice is accepted, and refused for the first range
before it is drafted. -/
theorem remaining_of_twiceOnPorts :
    twiceOnPorts.Accepted applications ⟨.setApplication, [⟨.application, .ofUInt8 7⟩]⟩ ∧
      twiceOnPorts.decode =
        .error (.entry twiceOnPorts (.field (.emptyRange .applicationPort ⟨2, 1⟩))) ∧
      (DecodeError.field (.emptyRange .applicationPort ⟨2, 1⟩)).Remaining ∧
      applications.ReadableFrom twiceOnPorts.matchKey := by
  have haccepted :
      twiceOnPorts.Accepted applications ⟨.setApplication, [⟨.application, .ofUInt8 7⟩]⟩ :=
    ⟨by decide, by decide, by decide⟩
  have hrefused : twiceOnPorts.decode =
      .error (.entry twiceOnPorts (.field (.emptyRange .applicationPort ⟨2, 1⟩))) := by decide
  obtain ⟨-, -, hreadable, -, -, hremaining⟩ := unreachable_of_accepted haccepted
  obtain ⟨cause, hcause, h⟩ := hremaining _ hrefused
  cases hcause
  exact ⟨haccepted, hrefused, h, hreadable⟩

end TableEntry

end UserPlane
