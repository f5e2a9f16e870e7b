import UserPlane.Proofs.Declaration

/-! # The first field match that breaks a declaration

A field match **offends** a table (`Pipeline.Table.Offends`) if the table does not declare the
field, or declares it with another kind. That is what the check of one field match reports
(`checkMatch_eq_error_iff`). The field matches of a key are checked one after another, each of them,
also where they are on one field, and the first that does not pass ends the check
(`checkMatches_eq_error_iff`). So a match key is accepted or has **a first offence, which is
reported** (`checkKey_reports_first_offence`). Whether it is accepted depends on which field matches
it has, but not on their order or number (`checkKey_eq_ok_of_subset`). -/

namespace UserPlane.Pipeline.Table

/-- How a field match breaks the declaration of a table. -/
inductive Offends (t : Table) (m : FieldMatch) : MatchKeyError → Prop where
  /-- The table declares no such field. -/
  | undeclared (h : ∀ f ∈ t.fields, f.id ≠ m.field) : Offends t m (.unknownField t.id m.field)
  /-- The table declares the field with another kind. -/
  | otherKind {kind : MatchKind} (h : ⟨m.field, kind⟩ ∈ t.fields) (hkind : kind ≠ m.kind) :
    Offends t m (.wrongKind m.field kind m.kind)

variable {t : Table} {m : FieldMatch} {ms : List FieldMatch} {e : MatchKeyError}

/-! ## One field match -/

/-- There is no kind for the fields that the table does not declare. -/
theorem matchKind?_eq_none_iff {field : FieldId} :
    t.matchKind? field = none ↔ ∀ f ∈ t.fields, f.id ≠ field := by
  rw [matchKind?, Option.map_eq_none_iff]
  exact Keyed.find?_eq_none_iff

/-- A field match passes exactly if the table declares it. -/
theorem checkMatch_eq_ok_iff_declares (ht : t ∈ tables) :
    t.checkMatch m = .ok () ↔ t.Declares m := by
  rw [checkMatch_eq_ok_iff, matchKind?_eq_some_iff ht]
  rfl

/-- **A field match that does not pass is reported for its offence.** -/
theorem checkMatch_eq_error_iff (ht : t ∈ tables) :
    t.checkMatch m = .error e ↔ t.Offends m e := by
  constructor
  · intro h
    rw [checkMatch] at h
    cases hfound : t.matchKind? m.field with
    | none =>
      rw [hfound] at h
      cases h
      exact .undeclared (matchKind?_eq_none_iff.mp hfound)
    | some expected =>
      rw [hfound] at h
      by_cases hkind : expected = m.kind
      · simp [hkind] at h
      · simp only [if_neg hkind] at h
        cases h
        exact .otherKind ((matchKind?_eq_some_iff ht).mp hfound) hkind
  · intro h
    rw [checkMatch]
    cases h with
    | undeclared hunknown => rw [matchKind?_eq_none_iff.mpr hunknown]
    | otherKind hother hkind =>
      rw [(matchKind?_eq_some_iff ht).mpr hother]
      exact if_neg hkind

/-- A field match that is not declared offends, and no other does. -/
theorem not_declares_iff_exists_offends (ht : t ∈ tables) :
    ¬t.Declares m ↔ ∃ e, t.Offends m e := by
  rw [← checkMatch_eq_ok_iff_declares ht]
  simp only [← checkMatch_eq_error_iff ht]
  cases t.checkMatch m with
  | ok u => simp
  | error e => simp

/-! ## One after another -/

/-- **The check ends at the first field match that does not pass**, with what that one is reported
for; those before it pass, and those after it are not looked at. -/
theorem checkMatches_eq_error_iff :
    t.checkMatches ms = .error e ↔ ∃ before m after, ms = before ++ m :: after ∧
      (∀ b ∈ before, t.checkMatch b = .ok ()) ∧ t.checkMatch m = .error e := by
  induction ms with
  | nil =>
    constructor
    · intro h
      cases h
    · rintro ⟨before, m, after, hsplit, -⟩
      cases before <;> cases hsplit
  | cons first rest ih =>
    rw [checkMatches]
    cases hfirst : t.checkMatch first with
    | ok u =>
      show t.checkMatches rest = .error e ↔ _
      rw [ih]
      constructor
      · rintro ⟨before, m, after, rfl, hbefore, hm⟩
        exact ⟨first :: before, m, after, rfl, List.forall_mem_cons.mpr ⟨hfirst, hbefore⟩, hm⟩
      · rintro ⟨before, m, after, hsplit, hbefore, hm⟩
        cases before with
        | nil =>
          cases hsplit
          cases hfirst.symm.trans hm
        | cons b before =>
          cases hsplit
          exact ⟨before, m, after, rfl, (List.forall_mem_cons.mp hbefore).2, hm⟩
    | error broken =>
      constructor
      · rintro ⟨⟩
        exact ⟨[], first, rest, rfl, List.forall_mem_nil _, hfirst⟩
      · rintro ⟨before, m, after, hsplit, hbefore, hm⟩
        cases before with
        | nil =>
          cases hsplit
          exact hfirst.symm.trans hm
        | cons b before =>
          cases hsplit
          cases hfirst.symm.trans (hbefore first List.mem_cons_self)

/-! ## Match keys -/

/-- A key is accepted if its field matches are among those of a key that is. -/
theorem checkKey_eq_ok_of_subset (ht : t ∈ tables) {key other : MatchKey}
    (hsub : other.fieldMatches ⊆ key.fieldMatches) (h : t.checkKey key = .ok ()) :
    t.checkKey other = .ok () := by
  rw [checkKey_eq_ok_iff ht] at h ⊢
  exact fun m hm => h m (hsub hm)

/-- **The first offence of a match key is reported.** Whatever field matches a key has, in whatever
order and however often on one field, a table of the pipeline accepts it exactly if it declares each
of them. Otherwise the key is refused for the first field match that the table does not declare: for
an unknown field, named with the table, or for the kind, named with the kind that is declared. A key
stays accepted if its field matches are put in another order, and if some are left out. -/
theorem checkKey_reports_first_offence (ht : t ∈ tables) (key : MatchKey) :
    (t.checkKey key = .ok () ↔ ∀ m ∈ key.fieldMatches, t.Declares m) ∧
    (∀ m, ¬t.Declares m ↔ ∃ e, t.Offends m e) ∧
    (∀ e, t.checkKey key = .error e ↔
      ∃ before m after, key.fieldMatches = before ++ m :: after ∧
        (∀ b ∈ before, t.Declares b) ∧ t.Offends m e) ∧
    (∀ other : MatchKey, other.fieldMatches.Perm key.fieldMatches →
      (t.checkKey other = .ok () ↔ t.checkKey key = .ok ())) ∧
    ∀ other : MatchKey, other.fieldMatches.Sublist key.fieldMatches →
      t.checkKey key = .ok () → t.checkKey other = .ok () := by
  refine ⟨checkKey_eq_ok_iff ht, fun m => not_declares_iff_exists_offends ht, ?_, ?_, ?_⟩
  · intro e
    rw [checkKey, checkMatches_eq_error_iff]
    simp only [checkMatch_eq_ok_iff_declares ht, checkMatch_eq_error_iff ht]
  · intro other hperm
    exact ⟨checkKey_eq_ok_of_subset ht hperm.symm.subset, checkKey_eq_ok_of_subset ht hperm.subset⟩
  · intro other hsublist
    exact checkKey_eq_ok_of_subset ht hsublist.subset

/-- A match on the ports of an application in the way that is declared. -/
def onPorts : FieldMatch := ⟨.applicationPort, .range (.ofUInt16 80) (.ofUInt16 443)⟩

/-- A match on the ports of an application in another way. -/
def onOnePort : FieldMatch := ⟨.applicationPort, .exact (.ofUInt16 80)⟩

/-- A match on the protocol of an application in the way that is declared. -/
def onProtocol : FieldMatch := ⟨.applicationProtocol, .ternary (.ofUInt8 6) (.ofUInt8 255)⟩

/-- A second match on a field is checked as the first one is, and before a later field; a key on two
fields is accepted in both orders, and so is a key on one of them. -/
theorem checkKey_reports_first_offence_onPorts :
    applications ∈ tables ∧
      applications.checkKey ⟨[onPorts, onOnePort, ⟨.teid, .exact (.ofUInt32 1)⟩]⟩ =
        .error (.wrongKind .applicationPort .range .exact) ∧
      [onProtocol, onPorts].Perm [onPorts, onProtocol] ∧
      applications.checkKey ⟨[onProtocol, onPorts]⟩ = .ok () ∧
      [onPorts].Sublist [onPorts, onProtocol] ∧
      applications.checkKey ⟨[onPorts]⟩ = .ok () := by
  have ht : applications ∈ tables := by decide
  have hperm : [onProtocol, onPorts].Perm [onPorts, onProtocol] := .swap _ _ _
  have hsublist : [onPorts].Sublist [onPorts, onProtocol] := by decide
  obtain ⟨-, -, herror, -, -⟩ :=
    checkKey_reports_first_offence ht ⟨[onPorts, onOnePort, ⟨.teid, .exact (.ofUInt32 1)⟩]⟩
  obtain ⟨hok, -, -, hreordered, hleft⟩ :=
    checkKey_reports_first_offence ht ⟨[onPorts, onProtocol]⟩
  have haccepted := hok.mpr (by decide)
  refine ⟨ht, (herror _).mpr ⟨[_], _, [_], rfl, ?_, ?_⟩, hperm,
    (hreordered ⟨[onProtocol, onPorts]⟩ hperm).mpr haccepted, hsublist,
    hleft ⟨[onPorts]⟩ hsublist haccepted⟩
  · decide
  · exact .otherKind (by decide) (by decide)

end UserPlane.Pipeline.Table
