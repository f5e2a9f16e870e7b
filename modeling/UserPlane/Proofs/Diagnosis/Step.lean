import UserPlane.Proofs.Diagnosis.Check
import UserPlane.Proofs.Width

/-! # Steps that report the first failure

The reader of an entry is a chain of steps. A step **reports** a list of checks (`Reports`) if it
gives a value when they all pass, and otherwise fails with the first of them that fails. A chain of
two steps then reports the checks of the first and, after them, those of the second
(`Reports.bind`). So each reader of a part of an entry reports the checks of that part, in the order
in which it reads. -/

namespace UserPlane

/-! ## Chains of steps -/

/-- A step that gives a value if its checks pass, and otherwise reports the first that fails. -/
def Reports {α : Type} (t : Pipeline.Table) (entry : TableEntry) (a : Action)
    (checks : List Check) : Except DecodeError α → Prop
  | .ok _ => AllPass (Check.Fails t entry a) checks
  | .error cause => FirstFailure (Check.Fails t entry a) checks cause cause.message

section Steps

variable {t : Pipeline.Table} {entry : TableEntry} {a : Action} {checks later : List Check}
  {α β : Type}

namespace Reports

/-- A step that only gives a value reports no check. -/
theorem nil (x : α) : Reports t entry a [] (.ok x) := by
  intro c hc
  cases hc

/-- A check that passes may stand in front of what a step reports. -/
theorem pass {c : Check} {x : Except DecodeError α}
    (hpass : ∀ cause reason, ¬c.Fails t entry a cause reason)
    (hx : Reports t entry a later x) : Reports t entry a (c :: later) x := by
  cases x with
  | error cause => exact .there hpass hx
  | ok v => exact List.forall_mem_cons.mpr ⟨hpass, hx⟩

/-- A step that fails as a check does reports it, whatever checks would come later. -/
theorem fail {c : Check} {cause : DecodeError} {reason : String}
    (h : c.Fails t entry a cause reason) :
    Reports t entry a (c :: later) (.error cause : Except DecodeError α) := by
  obtain rfl := h.message_eq
  exact .here h

/-- A chain of two steps reports the checks of the first and then those of the second. -/
theorem bind {x : Except DecodeError α} {f : α → Except DecodeError β}
    (hx : Reports t entry a checks x) (hf : ∀ v, x = .ok v → Reports t entry a later (f v)) :
    Reports t entry a (checks ++ later) (x >>= f) := by
  cases x with
  | error cause => exact FirstFailure.append hx
  | ok v =>
    show Reports t entry a (checks ++ later) (f v)
    have hlater := hf v rfl
    cases hfv : f v with
    | error cause =>
      rw [hfv] at hlater
      exact AllPass.append_firstFailure hx hlater
    | ok w =>
      rw [hfv] at hlater
      intro c hc
      exact (List.mem_append.mp hc).elim (hx c) (hlater c)

/-- A chain whose second step cannot fail reports the checks of the first. -/
theorem bind_ok {x : Except DecodeError α} {f : α → Except DecodeError β}
    (hx : Reports t entry a checks x) (hf : ∀ v, x = .ok v → ∃ w, f v = .ok w) :
    Reports t entry a checks (x >>= f) := by
  rw [← List.append_nil checks]
  refine hx.bind fun v hv => ?_
  obtain ⟨w, hw⟩ := hf v hv
  rw [hw]
  exact nil w

/-- A step reports the same checks whatever is done with its value. -/
theorem map {x : Except DecodeError α} (hx : Reports t entry a checks x) (f : α → β) :
    Reports t entry a checks (f <$> x) := by
  cases x with
  | error cause => exact hx
  | ok v => exact hx

/-- A step for a part of an entry may itself be a chain. -/
theorem bind_field {x : Except FieldError α} {f : α → Except FieldError β}
    (hx : Reports t entry a checks (x.mapError .field))
    (hf : ∀ v, x = .ok v → Reports t entry a later ((f v).mapError .field)) :
    Reports t entry a (checks ++ later) ((x >>= f).mapError .field) := by
  rw [mapError_bind]
  exact hx.bind fun v hv => hf v (mapError_eq_ok_iff.mp hv)

end Reports

/-! ## The match key -/

/-- A field match is checked against the declaration. -/
theorem reports_checkMatch (ht : t ∈ Pipeline.tables) (m : FieldMatch) :
    Reports t entry a [.declared m] ((t.checkMatch m).mapError .matchKey) := by
  rw [Pipeline.Table.checkMatch]
  cases hkind : t.matchKind? m.field with
  | none =>
    have hnone := Option.map_eq_none_iff.mp hkind
    exact .fail (.unknownField (Keyed.find?_eq_none_iff.mp hnone))
  | some expected =>
    have hmem := (Pipeline.Table.matchKind?_eq_some_iff ht).mp hkind
    by_cases heq : expected = m.kind
    · simp only [if_pos heq]
      refine .pass (fun cause reason h => ?_) (.nil ())
      cases h with
      | unknownField h => exact h _ hmem rfl
      | wrongKind h hne => exact hne ((Pipeline.Table.kind_unique ht h hmem).trans heq)
    · simp only [if_neg heq]
      exact .fail (.wrongKind hmem heq)

/-- The field matches of a key are checked in order. -/
theorem reports_checkKey (ht : t ∈ Pipeline.tables) (key : MatchKey) :
    Reports t entry a (key.fieldMatches.map .declared) ((t.checkKey key).mapError .matchKey) := by
  rw [Pipeline.Table.checkKey]
  induction key.fieldMatches with
  | nil => exact .nil ()
  | cons m rest ih =>
    have hstep : t.checkMatches (m :: rest) = t.checkMatch m >>= fun _ => t.checkMatches rest := by
      rw [Pipeline.Table.checkMatches]
      cases t.checkMatch m with
      | ok u => rfl
      | error e => rfl
    rw [hstep, mapError_bind]
    exact (reports_checkMatch ht m).bind fun _ _ => ih

/-! ## Numbers -/

section Numbers

variable {read : ByteString → Except ByteString.Error α} {toNat : α → Nat} {width : Nat}

/-- A number is read from the bytes at a place. -/
theorem reports_naming (hread : ByteString.Reads read toNat width) {place : Place} {b : ByteString}
    (hb : place.Holds entry.matchKey a b) :
    Reports t entry a [.fits place width]
      ((FieldError.naming place.name (read b)).mapError .field) := by
  cases hresult : read b with
  | ok v =>
    refine .pass (fun cause reason h => ?_) (.nil v)
    cases h with
    | tooWide hb' hlarge =>
      cases hb.unique hb'
      have hsmall := (hread.fits b).mp ⟨v, hresult, hread.agrees b v hresult⟩
      exact absurd hlarge (Nat.not_le.mpr hsmall)
  | error e =>
    obtain ⟨hlarge, rfl, -⟩ := (hread.refuses b e).mp hresult
    exact .fail (.tooWide hb hlarge)

/-- The bytes of an exact match are looked up. -/
theorem reports_exactValue (field : FieldId)
    (hkind : ∀ v, entry.matchKey.find? field = some ⟨field, v⟩ → v.kind = .exact) :
    Reports t entry a [.matched field] ((entry.matchKey.exactValue field).mapError .field) := by
  rw [MatchKey.exactValue, MatchKey.valueOf]
  rcases entry.matchKey.find?_eq_none_or field with hfind | ⟨v, hfind⟩
  · rw [hfind]
    exact .fail (.missingField (Keyed.find?_eq_none_iff.mp hfind))
  · rw [hfind]
    have hexact := hkind v hfind
    cases v with
    | exact b => exact .pass (Check.not_fails_matched hfind) (.nil b)
    | longestPrefix b length => cases hexact
    | ternary b mask => cases hexact
    | range low high => cases hexact

/-- A number is read from an exact match. -/
theorem reports_readExact (hread : ByteString.Reads read toNat width) (field : FieldId)
    (hkind : ∀ v, entry.matchKey.find? field = some ⟨field, v⟩ → v.kind = .exact) :
    Reports t entry a (Check.ofField field width)
      ((entry.matchKey.exactValue field >>= fun b =>
        FieldError.naming field.name (read b)).mapError .field) :=
  (reports_exactValue field hkind).bind_field fun _ hb =>
    reports_naming hread (.exact (MatchKey.exactValue_eq_ok_iff.mp hb))

/-- A number is read from a parameter. -/
theorem reports_readParam (hread : ByteString.Reads read toNat width) (param : ParamId) :
    Reports t entry a (Check.ofParam param width)
      ((a.valueOf param >>= fun b => FieldError.naming param.name (read b)).mapError .field) := by
  have hvalue : Reports t entry a [.given param] ((a.valueOf param).mapError .field) := by
    rw [Action.valueOf]
    cases hfind : a.param? param with
    | none => exact .fail (.missingParam (Keyed.find?_eq_none_iff.mp hfind))
    | some p => exact .pass (Check.not_fails_given hfind) (.nil p.value)
  exact hvalue.bind_field fun _ hb => reports_naming hread (.param (Action.valueOf_eq_ok_iff.mp hb))

end Numbers

/-! ## Prefixes, ranges and masks -/

section Matches

variable {field : FieldId} {v : MatchValue}

/-- An address is cut to the length of a prefix match. -/
theorem reports_prefixAround {b : ByteString} {length : UInt32}
    (hfind : entry.matchKey.find? field = some ⟨field, .longestPrefix b length⟩)
    (address : Address) :
    Reports t entry a [.length field]
      ((MatchKey.prefixAround field address length).mapError .field) := by
  by_cases hlong : 32 < length.toNat
  · have herror : MatchKey.prefixAround field address length =
        .error (.invalidLength field length) := by
      cases hresult : MatchKey.prefixAround field address length with
      | ok p =>
        have hlength := (MatchKey.prefixAround_eq_ok_iff.mp hresult).1
        have hle := p.toNat_length_le
        omega
      | error e => rw [MatchKey.prefixAround_eq_error hresult]
    rw [herror]
    exact .fail (.tooLong hfind hlong)
  · obtain ⟨p, hp⟩ := MatchKey.exists_prefixAround field address (Nat.not_lt.mp hlong)
    rw [hp]
    refine .pass (fun cause reason h => ?_) (.nil p)
    cases h with
    | tooLong hfind' h =>
      cases hfind.symm.trans hfind'
      exact hlong h

/-- A prefix is read from a prefix match. -/
theorem reports_prefixOf_of_find? (hfind : entry.matchKey.find? field = some ⟨field, v⟩)
    (hkind : v.kind = .longestPrefix) :
    Reports t entry a (Check.ofPrefix field)
      ((entry.matchKey.prefixOf field).mapError .field) := by
  cases v with
  | longestPrefix b length =>
    have hstep : entry.matchKey.prefixOf field =
        FieldError.naming field.name b.toAddress >>= fun address =>
          MatchKey.prefixAround field address length := by
      rw [MatchKey.prefixOf, MatchKey.valueOf_eq_ok_iff.mpr hfind]
      rfl
    rw [hstep]
    exact (reports_naming ByteString.reads_toAddress (.longestPrefix hfind)).bind_field
      fun address _ => reports_prefixAround hfind address
  | exact b => cases hkind
  | ternary b mask => cases hkind
  | range low high => cases hkind

/-- A range of ports is read from a range match. -/
theorem reports_portsOf_of_find? (hfind : entry.matchKey.find? field = some ⟨field, v⟩)
    (hkind : v.kind = .range) :
    Reports t entry a (Check.ofPorts field) ((entry.matchKey.portsOf field).mapError .field) := by
  cases v with
  | range low high =>
    have hstep : entry.matchKey.portsOf field =
        FieldError.naming field.name low.toUInt16 >>= fun l =>
          FieldError.naming field.name high.toUInt16 >>= fun u =>
            if (PortRange.mk l u).isEmpty then .error (.emptyRange field ⟨l, u⟩)
            else .ok ⟨l, u⟩ := by
      rw [MatchKey.portsOf, MatchKey.valueOf_eq_ok_iff.mpr hfind]
      rfl
    rw [hstep]
    refine (reports_naming ByteString.reads_toUInt16 (.low hfind)).bind_field fun l hl => ?_
    refine (reports_naming ByteString.reads_toUInt16 (.high hfind)).bind_field fun u hu => ?_
    have hlow' : low.value = l.toNat :=
      ByteString.toUInt16_eq_ok_iff.mp (mapError_eq_ok_iff.mp hl)
    have hhigh' : high.value = u.toNat :=
      ByteString.toUInt16_eq_ok_iff.mp (mapError_eq_ok_iff.mp hu)
    cases hempty : (PortRange.mk l u).isEmpty with
    | true => exact .fail (.emptyRange hfind hlow' hhigh' (of_decide_eq_true hempty))
    | false =>
      refine .pass (fun cause reason h => ?_) (.nil _)
      cases h with
      | @emptyRange _ _ _ r hfind' hlow hhigh h =>
        cases hfind.symm.trans hfind'
        obtain ⟨low', high'⟩ := r
        obtain rfl : l = low' := UInt16.toNat_inj.mp (hlow'.symm.trans hlow)
        obtain rfl : u = high' := UInt16.toNat_inj.mp (hhigh'.symm.trans hhigh)
        exact absurd h (UInt16.not_lt.mpr (PortRange.isEmpty_eq_false_iff.mp hempty))
  | exact b => cases hkind
  | longestPrefix b length => cases hkind
  | ternary b mask => cases hkind

/-- A byte is read from a ternary match. -/
theorem reports_maskedByteOf_of_find? (hfind : entry.matchKey.find? field = some ⟨field, v⟩)
    (hkind : v.kind = .ternary) :
    Reports t entry a (Check.ofMaskedByte field)
      ((entry.matchKey.maskedByteOf field).mapError .field) := by
  cases v with
  | ternary b mask =>
    have hstep : entry.matchKey.maskedByteOf field =
        FieldError.naming field.name mask.toUInt8 >>= fun bits =>
          if bits = 0xff then FieldError.naming field.name b.toUInt8
          else .error (.partialMask field mask) := by
      rw [MatchKey.maskedByteOf, MatchKey.valueOf_eq_ok_iff.mpr hfind]
      rfl
    rw [hstep]
    refine (reports_naming ByteString.reads_toUInt8 (.mask hfind)).bind_field fun bits hbits => ?_
    have hmask : mask.value = bits.toNat :=
      ByteString.toUInt8_eq_ok_iff.mp (mapError_eq_ok_iff.mp hbits)
    by_cases hfull : bits = 0xff
    · rw [if_pos hfull]
      refine .pass (fun cause reason h => ?_)
        (reports_naming ByteString.reads_toUInt8 (.ternary hfind))
      cases h with
      | partialMask hfind' h =>
        cases hfind.symm.trans hfind'
        exact h (by rw [hmask, hfull]; rfl)
    · rw [if_neg hfull]
      refine .fail (.partialMask hfind fun h => hfull ?_)
      exact UInt8.toNat_inj.mp (hmask.symm.trans h)
  | exact b => cases hkind
  | longestPrefix b length => cases hkind
  | range low high => cases hkind

/-- A prefix that has to be there is read. -/
theorem reports_prefixOf (field : FieldId)
    (hkind : ∀ v, entry.matchKey.find? field = some ⟨field, v⟩ → v.kind = .longestPrefix) :
    Reports t entry a (.matched field :: Check.ofPrefix field)
      ((entry.matchKey.prefixOf field).mapError .field) := by
  rcases entry.matchKey.find?_eq_none_or field with hfind | ⟨v, hfind⟩
  · rw [MatchKey.prefixOf, MatchKey.valueOf, hfind]
    exact .fail (.missingField (Keyed.find?_eq_none_iff.mp hfind))
  · exact .pass (Check.not_fails_matched hfind) (reports_prefixOf_of_find? hfind (hkind v hfind))

/-- A part of a filter is read if it is there, and otherwise none of its checks fails. -/
theorem reports_ifPresent (field : FieldId) {read : MatchKey → FieldId → Except FieldError α}
    (say : α → Application.Setting)
    (habout : ∀ c ∈ checks, c.field? = some field)
    (hread : ∀ v, entry.matchKey.find? field = some ⟨field, v⟩ →
      Reports t entry a checks ((read entry.matchKey field).mapError .field)) :
    Reports t entry a checks
      ((Decoding.ifPresent entry.matchKey field read say).mapError .field) := by
  rw [Decoding.ifPresent, MatchKey.contains]
  rcases entry.matchKey.find?_eq_none_or field with hfind | ⟨v, hfind⟩
  · rw [hfind]
    exact fun c hc cause reason h => h.find?_ne_none (habout c hc) hfind
  · rw [hfind]
    have hresult := hread v hfind
    cases hvalue : read entry.matchKey field with
    | error e =>
      rw [hvalue] at hresult
      exact hresult
    | ok x =>
      rw [hvalue] at hresult
      exact hresult

end Matches

end Steps

end UserPlane
