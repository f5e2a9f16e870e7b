import UserPlane.Codec
import UserPlane.Proofs.Declaration
import UserPlane.Proofs.Reading

/-! # What an entry is looked at for

An entry is looked at for a list of **checks**, in an order that the table and the action fix
(`Check.order`). Each check is about the entry alone: `Check.Fails` says when it fails, with which
cause and in which words, and whether it does has nothing to do with the other checks. An entry can
be wrong in many ways at once, but each check fails in one way (`Check.Fails.unique`), and so one of
the failures is the **first** (`FirstFailure`). An entry is **refused** (`TableEntry.Refused`) for
its table, for its action, or for the first check that fails. -/

namespace UserPlane

/-! ## The first failure -/

section FirstFailure

variable {κ ε σ : Type} {Fails : κ → ε → σ → Prop} {checks later : List κ} {e e' : ε} {s s' : σ}

/-- The first check of a list that fails, and how: those before it pass, and those after it do not
matter. -/
inductive FirstFailure (Fails : κ → ε → σ → Prop) : List κ → ε → σ → Prop where
  /-- The check at the front fails. -/
  | here {c : κ} {rest : List κ} {e : ε} {s : σ} (h : Fails c e s) :
    FirstFailure Fails (c :: rest) e s
  /-- The check at the front passes, and a later one is the first to fail. -/
  | there {c : κ} {rest : List κ} {e : ε} {s : σ} (hpass : ∀ e s, ¬Fails c e s)
    (h : FirstFailure Fails rest e s) : FirstFailure Fails (c :: rest) e s

/-- None of the checks fails. -/
def AllPass (Fails : κ → ε → σ → Prop) (checks : List κ) : Prop :=
  ∀ c ∈ checks, ∀ e s, ¬Fails c e s

/-- The first failure is that of one of the checks. -/
theorem FirstFailure.exists_mem (h : FirstFailure Fails checks e s) :
    ∃ c ∈ checks, Fails c e s := by
  induction h with
  | here h => exact ⟨_, List.mem_cons_self, h⟩
  | there _ _ ih =>
    obtain ⟨c, hc, h⟩ := ih
    exact ⟨c, List.mem_cons_of_mem _ hc, h⟩

/-- If no check fails, there is no first one. -/
theorem FirstFailure.not_allPass (h : FirstFailure Fails checks e s) : ¬AllPass Fails checks := by
  obtain ⟨c, hc, hfails⟩ := h.exists_mem
  exact fun hall => hall c hc e s hfails

/-- Checks that come after the first failure do not matter. -/
theorem FirstFailure.append (h : FirstFailure Fails checks e s) :
    FirstFailure Fails (checks ++ later) e s := by
  induction h with
  | here h => exact .here h
  | there hpass _ ih => exact .there hpass ih

/-- Checks that pass do not matter to the first failure after them. -/
theorem AllPass.append_firstFailure (hpass : AllPass Fails checks)
    (h : FirstFailure Fails later e s) : FirstFailure Fails (checks ++ later) e s := by
  induction checks with
  | nil => exact h
  | cons c rest ih =>
    rw [AllPass, List.forall_mem_cons] at hpass
    exact .there hpass.1 (ih hpass.2)

/-- If each check can fail in one way only, there is one first failure. -/
theorem FirstFailure.unique
    (hfails : ∀ c e s e' s', Fails c e s → Fails c e' s' → e = e' ∧ s = s')
    (h : FirstFailure Fails checks e s) (h' : FirstFailure Fails checks e' s') :
    e = e' ∧ s = s' := by
  induction h with
  | here h =>
    cases h' with
    | here h' => exact hfails _ _ _ _ _ h h'
    | there hpass _ => exact absurd h (hpass _ _)
  | there hpass _ ih =>
    cases h' with
    | here h' => exact absurd h' (hpass _ _)
    | there _ h' => exact ih h'

end FirstFailure

/-! ## Checks -/

/-- A place of an entry where bytes stand. -/
inductive Place where
  /-- The value that a field is compared with. -/
  | value (field : FieldId)
  /-- The bits that are compared. -/
  | mask (field : FieldId)
  /-- The lower bound. -/
  | low (field : FieldId)
  /-- The upper bound. -/
  | high (field : FieldId)
  /-- The value of a parameter. -/
  | param (param : ParamId)

namespace Place

/-- The field or the parameter that the bytes belong to. -/
def name : Place → String
  | value field => field.name
  | mask field => field.name
  | low field => field.name
  | high field => field.name
  | param p => p.name

/-- What bytes stand at a place, by the first match on the field or the first parameter. -/
inductive Holds (key : MatchKey) (a : Action) : Place → ByteString → Prop where
  /-- The value of an exact match. -/
  | exact {field : FieldId} {b : ByteString} (h : key.find? field = some ⟨field, .exact b⟩) :
    Holds key a (.value field) b
  /-- The value of a prefix match. -/
  | longestPrefix {field : FieldId} {b : ByteString} {length : UInt32}
    (h : key.find? field = some ⟨field, .longestPrefix b length⟩) : Holds key a (.value field) b
  /-- The value of a ternary match. -/
  | ternary {field : FieldId} {b mask : ByteString}
    (h : key.find? field = some ⟨field, .ternary b mask⟩) : Holds key a (.value field) b
  /-- The mask of a ternary match. -/
  | mask {field : FieldId} {b mask : ByteString}
    (h : key.find? field = some ⟨field, .ternary b mask⟩) : Holds key a (.mask field) mask
  /-- The lower bound of a range match. -/
  | low {field : FieldId} {low high : ByteString}
    (h : key.find? field = some ⟨field, .range low high⟩) : Holds key a (.low field) low
  /-- The upper bound of a range match. -/
  | high {field : FieldId} {low high : ByteString}
    (h : key.find? field = some ⟨field, .range low high⟩) : Holds key a (.high field) high
  /-- The value of a parameter. -/
  | param {param : ParamId} {b : ByteString} (h : a.param? param = some ⟨param, b⟩) :
    Holds key a (.param param) b

/-- One byte string stands at a place. -/
theorem Holds.unique {key : MatchKey} {a : Action} {place : Place} {b b' : ByteString}
    (h : place.Holds key a b) (h' : place.Holds key a b') : b = b' := by
  cases h with
  | _ h =>
    cases h' with
    | _ h' => cases h.symm.trans h' <;> rfl

end Place

/-- One thing that an entry is looked at for. -/
inductive Check where
  /-- The table declares a field match. -/
  | declared (m : FieldMatch)
  /-- The key matches on a field. -/
  | matched (field : FieldId)
  /-- The action has a parameter. -/
  | given (param : ParamId)
  /-- So many bytes can hold the number at a place. -/
  | fits (place : Place) (width : Nat)
  /-- The source interface is a side that the pipeline knows. -/
  | side
  /-- A prefix match compares no more bits than an address has. -/
  | length (field : FieldId)
  /-- The bounds of a range match are in order. -/
  | ordered (field : FieldId)
  /-- A ternary match compares all bits of one byte. -/
  | fullMask (field : FieldId)
  /-- The entry has a priority. -/
  | priority

namespace Check

/-- When a check of an entry with an action in a table fails, with which cause, and in which
words. -/
inductive Fails (t : Pipeline.Table) (entry : TableEntry) (a : Action) :
    Check → DecodeError → String → Prop where
  /-- The table declares no such field. -/
  | unknownField {m : FieldMatch} (h : ∀ f ∈ t.fields, f.id ≠ m.field) :
    Fails t entry a (.declared m) (.matchKey (.unknownField t.id m.field))
      ("table '" ++ t.id.name ++ "' has no match field '" ++ m.field.name ++ "'")
  /-- The table declares the field with another kind. -/
  | wrongKind {m : FieldMatch} {kind : MatchKind} (h : ⟨m.field, kind⟩ ∈ t.fields)
    (hkind : kind ≠ m.kind) :
    Fails t entry a (.declared m) (.matchKey (.wrongKind m.field kind m.kind))
      ("match field '" ++ m.field.name ++ "' is " ++ m.kind.name ++ ", expected " ++ kind.name)
  /-- No field match is on the field. -/
  | missingField {field : FieldId} (h : ∀ m ∈ entry.matchKey.fieldMatches, m.field ≠ field) :
    Fails t entry a (.matched field) (.field (.missingField field))
      ("missing match field '" ++ field.name ++ "'")
  /-- No parameter has the name. -/
  | missingParam {param : ParamId} (h : ∀ p ∈ a.params, p.id ≠ param) :
    Fails t entry a (.given param) (.field (.missingParam param))
      ("missing action parameter '" ++ param.name ++ "'")
  /-- The number is too large for so many bytes. -/
  | tooWide {place : Place} {width : Nat} {b : ByteString}
    (hb : place.Holds entry.matchKey a b) (h : 2 ^ (8 * width) ≤ b.value) :
    Fails t entry a (.fits place width) (.field (.invalidValue place.name (.doesNotFit b width)))
      ("invalid value for '" ++ place.name ++ "': " ++
        ("byte sequence " ++ b.text ++ " does not fit in " ++ Decimal.text width ++ " byte(s)"))
  /-- The number of the source interface is neither of the two. -/
  | unknownSide {n : UInt8} (h : a.TellsNumber .sourceInterface n.toNat) (haccess : n ≠ 1)
    (hcore : n ≠ 2) :
    Fails t entry a .side (.unsupportedSide n)
      ("unsupported source interface type " ++ Decimal.text n.toNat)
  /-- No address has so many bits. -/
  | tooLong {field : FieldId} {b : ByteString} {length : UInt32}
    (hfind : entry.matchKey.find? field = some ⟨field, .longestPrefix b length⟩)
    (h : 32 < length.toNat) :
    Fails t entry a (.length field) (.field (.invalidLength field length))
      ("invalid prefix length " ++ Decimal.text length.toNat ++ " for '" ++ field.name ++ "'")
  /-- No number lies between the bounds. -/
  | emptyRange {field : FieldId} {low high : ByteString} {r : PortRange}
    (hfind : entry.matchKey.find? field = some ⟨field, .range low high⟩)
    (hlow : low.value = r.low.toNat) (hhigh : high.value = r.high.toNat) (h : r.high < r.low) :
    Fails t entry a (.ordered field) (.field (.emptyRange field r))
      ("range match '" ++ field.name ++ "' is empty (" ++
        (Decimal.text r.low.toNat ++ "..=" ++ Decimal.text r.high.toNat) ++ ")")
  /-- The mask leaves bits out. -/
  | partialMask {field : FieldId} {b mask : ByteString}
    (hfind : entry.matchKey.find? field = some ⟨field, .ternary b mask⟩) (h : mask.value ≠ 255) :
    Fails t entry a (.fullMask field) (.field (.partialMask field mask))
      ("ternary match '" ++ field.name ++ "' has a partial mask " ++ mask.text)
  /-- The entry has no priority. -/
  | missingPriority (h : entry.priority = none) :
    Fails t entry a .priority (.field .missingPriority) "table entry has no priority"

variable {t : Pipeline.Table} {entry : TableEntry} {a : Action} {c : Check}
  {cause cause' : DecodeError} {reason reason' : String}

/-- A check fails in the words of the cause. -/
theorem Fails.message_eq (h : c.Fails t entry a cause reason) : cause.message = reason := by
  cases h with
  | _ => rfl

/-- A check fails in one way only. -/
theorem Fails.unique (ht : t ∈ Pipeline.tables) (h : c.Fails t entry a cause reason)
    (h' : c.Fails t entry a cause' reason') : cause = cause' ∧ reason = reason' := by
  have hcause : cause = cause' := by
    cases h with
    | unknownField hunknown =>
      cases h' with
      | unknownField => rfl
      | wrongKind hdeclared => exact absurd rfl (hunknown _ hdeclared)
    | wrongKind hdeclared =>
      cases h' with
      | unknownField hunknown => exact absurd rfl (hunknown _ hdeclared)
      | wrongKind hdeclared' =>
        rw [Pipeline.Table.kind_unique ht hdeclared hdeclared']
    | missingField => cases h'; rfl
    | missingParam => cases h'; rfl
    | tooWide hb =>
      cases h' with
      | tooWide hb' =>
        cases hb.unique hb'
        rfl
    | unknownSide hn =>
      cases h' with
      | unknownSide hn' => rw [UInt8.toNat_inj.mp (hn.unique hn')]
    | tooLong hfind =>
      cases h' with
      | tooLong hfind' =>
        cases hfind.symm.trans hfind'
        rfl
    | @emptyRange _ _ _ r hfind hlow hhigh =>
      cases h' with
      | @emptyRange _ _ _ r' hfind' hlow' hhigh' =>
        cases hfind.symm.trans hfind'
        obtain ⟨low, high⟩ := r
        obtain ⟨low', high'⟩ := r'
        obtain rfl : low = low' := UInt16.toNat_inj.mp (hlow.symm.trans hlow')
        obtain rfl : high = high' := UInt16.toNat_inj.mp (hhigh.symm.trans hhigh')
        rfl
    | partialMask hfind =>
      cases h' with
      | partialMask hfind' =>
        cases hfind.symm.trans hfind'
        rfl
    | missingPriority => cases h'; rfl
  exact ⟨hcause, h.message_eq.symm.trans (hcause ▸ h'.message_eq)⟩

/-- A field that is found passes the check for a match on it. -/
theorem not_fails_matched {field : FieldId} {m : FieldMatch}
    (hfind : entry.matchKey.find? field = some m) (cause : DecodeError) (reason : String) :
    ¬(matched field).Fails t entry a cause reason := by
  intro h
  cases h with
  | missingField h =>
    rw [MatchKey.find?, Keyed.find?_eq_none_iff.mpr h] at hfind
    cases hfind

/-- A parameter that is found passes the check for it. -/
theorem not_fails_given {param : ParamId} {p : ActionParam} (hfind : a.param? param = some p)
    (cause : DecodeError) (reason : String) : ¬(given param).Fails t entry a cause reason := by
  intro h
  cases h with
  | missingParam h =>
    rw [Action.param?, Keyed.find?_eq_none_iff.mpr h] at hfind
    cases hfind

/-- The field that a check asks a match for. -/
def field? : Check → Option FieldId
  | fits (.value field) _ => some field
  | fits (.mask field) _ => some field
  | fits (.low field) _ => some field
  | fits (.high field) _ => some field
  | length field => some field
  | ordered field => some field
  | fullMask field => some field
  | _ => none

/-- A check that asks a match on a field for something fails only if there is one. -/
theorem Fails.find?_ne_none {field : FieldId} (h : c.Fails t entry a cause reason)
    (hc : c.field? = some field) : entry.matchKey.find? field ≠ none := by
  cases h with
  | tooWide hb _ =>
    cases hb with
    | param => cases hc
    | _ hfind =>
      cases hc
      rw [hfind]
      exact Option.some_ne_none _
  | tooLong hfind _ | emptyRange hfind _ _ _ | partialMask hfind _ =>
    cases hc
    rw [hfind]
    exact Option.some_ne_none _
  | _ => cases hc

/-! ## The order of the checks -/

/-- The checks of a field that holds a number of so many bytes. -/
def ofField (field : FieldId) (width : Nat) : List Check :=
  [.matched field, .fits (.value field) width]

/-- The checks of a parameter that holds a number of so many bytes. -/
def ofParam (param : ParamId) (width : Nat) : List Check :=
  [.given param, .fits (.param param) width]

/-- The checks of a prefix, if there is one: first the address, then the length. -/
def ofPrefix (field : FieldId) : List Check := [.fits (.value field) 4, .length field]

/-- The checks of a range of ports, if there is one: first the bounds, then their order. -/
def ofPorts (field : FieldId) : List Check :=
  [.fits (.low field) 2, .fits (.high field) 2, .ordered field]

/-- The checks of a byte under a mask, if there is one: first the mask, then the byte. -/
def ofMaskedByte (field : FieldId) : List Check :=
  [.fits (.mask field) 1, .fullMask field, .fits (.value field) 1]

/-- The checks of the tunnel that a downlink termination forwards through, and of its traffic class
if it has one. -/
def ofForwarding (id : ActionId) : List Check :=
  if id = .dropDownlink then []
  else ofParam .teid 4 ++ (ofParam .qfi 1 ++
    if id = .forwardDownlink then ofParam .trafficClass 1 else [])

/-- What an entry of a kind with an action is looked at for, one part after another. -/
def order (id : ActionId) : EntityKind → List (List Check)
  | .interface =>
    [ofParam .sourceInterface 1, [.side],
      .matched .destinationPrefix :: ofPrefix .destinationPrefix]
  | .uplinkSession => [ofField .n3Address 4, ofField .teid 4]
  | .downlinkSession =>
    [ofField .ueAddress 4, if id = .setDownlinkSession then ofParam .tunnelPeer 1 else []]
  | .uplinkTermination =>
    [ofField .ueAddress 4, ofField .application 1, ofParam .counter 4,
      if id = .forwardUplink then ofParam .trafficClass 1 else []]
  | .downlinkTermination =>
    [ofField .ueAddress 4, ofField .application 1, ofParam .counter 4, ofForwarding id]
  | .tunnelPeer =>
    [ofField .tunnelPeer 1, ofParam .source 4, ofParam .destination 4, ofParam .sourcePort 2]
  | .application =>
    [ofParam .application 1, [.priority], ofPrefix .applicationAddress, ofPorts .applicationPort,
      ofMaskedByte .applicationProtocol]
  | .counter => []

end Check

/-- Why a table entry is refused: the table is looked up first, then the action, and then the first
check that fails counts, of the field matches as they stand in the key and of what is read. -/
inductive TableEntry.Refused (entry : TableEntry) : DecodeError → String → Prop where
  /-- The pipeline has no table of that name. -/
  | unknownTable (h : ∀ t ∈ Pipeline.tables, t.id ≠ entry.table) :
    Refused entry .unknownTable "not a UP4 table"
  /-- The entry has no action. -/
  | missingAction {t : Pipeline.Table} (ht : t ∈ Pipeline.tables) (hid : t.id = entry.table)
    (h : entry.action = none) :
    Refused entry (.field .missingAction) "table entry has no action"
  /-- The table does not take the action. -/
  | unexpectedAction {t : Pipeline.Table} {a : Action} (ht : t ∈ Pipeline.tables)
    (hid : t.id = entry.table) (ha : entry.action = some a) (h : a.id ∉ t.actions) :
    Refused entry (.unexpectedAction entry.table a.id)
      ("action '" ++ a.id.name ++ "' is not valid for table '" ++ entry.table.name ++ "'")
  /-- A check fails. -/
  | check {t : Pipeline.Table} {a : Action} {cause : DecodeError} {reason : String}
    (ht : t ∈ Pipeline.tables) (hid : t.id = entry.table) (ha : entry.action = some a)
    (haccepted : a.id ∈ t.actions)
    (h : FirstFailure (Check.Fails t entry a)
      (entry.matchKey.fieldMatches.map .declared ++ (Check.order a.id t.kind).flatten)
      cause reason) :
    Refused entry cause reason

end UserPlane
