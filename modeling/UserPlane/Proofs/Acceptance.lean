import UserPlane.Proofs.Format

/-! # What decodes, and to what

The reader checks the table, the action and the match key, and leaves the rest to the kind. Put
together with what each kind is told (`Entity.ToldBy`), this is the whole language of table
entries: **an entry decodes to an entity exactly if it tells that entity in the table of its kind**
(`TableEntry.told_of_decode`, `TableEntry.decode_of_told`). -/

namespace UserPlane

namespace Decoding

/-- What is read for a kind is of that kind. -/
theorem kind_of_entityOf {kind : EntityKind} {entry : TableEntry} {a : Action} {e : Entity}
    (h : entityOf kind entry a = .ok e) : e.kind = kind := by
  cases kind with
  | counter => cases h
  | _ =>
    obtain ⟨_, -, rfl⟩ := map_eq_ok_iff.mp h
    rfl

/-- An entity is read for its kind exactly if it is told. -/
theorem entityOf_kind_eq_ok_iff {e : Entity} {t : Pipeline.Table}
    (ht : Pipeline.tableFor? e.kind = some t) {entry : TableEntry} {a : Action}
    (ha : a.id ∈ t.actions) : entityOf e.kind entry a = .ok e ↔ e.ToldBy entry a := by
  cases e with
  | interface i =>
    have hinj : Function.Injective Entity.interface := fun _ _ h => Entity.interface.inj h
    exact (map_eq_ok_iff_of_injective hinj).trans interface_eq_ok_iff
  | uplinkSession s =>
    have hinj : Function.Injective Entity.uplinkSession := fun _ _ h => Entity.uplinkSession.inj h
    exact (map_eq_ok_iff_of_injective hinj).trans uplinkSession_eq_ok_iff
  | downlinkSession s =>
    have hinj : Function.Injective Entity.downlinkSession :=
      fun _ _ h => Entity.downlinkSession.inj h
    cases ht
    exact (map_eq_ok_iff_of_injective hinj).trans (downlinkSession_eq_ok_iff ha)
  | uplinkTermination t =>
    have hinj : Function.Injective Entity.uplinkTermination :=
      fun _ _ h => Entity.uplinkTermination.inj h
    exact (map_eq_ok_iff_of_injective hinj).trans uplinkTermination_eq_ok_iff
  | downlinkTermination t =>
    have hinj : Function.Injective Entity.downlinkTermination :=
      fun _ _ h => Entity.downlinkTermination.inj h
    cases ht
    exact (map_eq_ok_iff_of_injective hinj).trans (downlinkTermination_eq_ok_iff ha)
  | tunnelPeer p =>
    have hinj : Function.Injective Entity.tunnelPeer := fun _ _ h => Entity.tunnelPeer.inj h
    exact (map_eq_ok_iff_of_injective hinj).trans tunnelPeer_eq_ok_iff
  | application app =>
    have hinj : Function.Injective Entity.application := fun _ _ h => Entity.application.inj h
    exact (map_eq_ok_iff_of_injective hinj).trans application_eq_ok_iff
  | counter c => cases ht

/-- The action of an entry is taken exactly if the table declares it. -/
theorem acceptedAction_eq_ok_iff {t : Pipeline.Table} {entry : TableEntry} {a : Action} :
    acceptedAction t entry = .ok a ↔ entry.action = some a ∧ a.id ∈ t.actions := by
  rw [acceptedAction, bind_eq_ok_iff, ← Pipeline.Table.accepts_eq_true_iff]
  simp only [DecodeError.lift_field_eq_ok_iff, TableEntry.requireAction_eq_ok_iff]
  constructor
  · rintro ⟨b, hb, h⟩
    cases haccepts : t.accepts b.id with
    | true =>
      rw [if_pos haccepts, pure_eq_ok_iff] at h
      subst h
      exact ⟨hb, haccepts⟩
    | false =>
      rw [if_neg (by rw [haccepts]; decide)] at h
      cases h
  · rintro ⟨ha, haccepts⟩
    exact ⟨a, ha, by rw [if_pos haccepts, pure_eq_ok_iff]⟩

end Decoding

namespace TableEntry

/-- The checks before the kind is looked at: the table, the action and the match key. -/
theorem toEntity_eq_ok_iff {entry : TableEntry} {e : Entity} :
    entry.toEntity = .ok e ↔
      ∃ t a, Pipeline.tableNamed? entry.table = some t ∧ entry.action = some a ∧
        a.id ∈ t.actions ∧ t.checkKey entry.matchKey = .ok () ∧
        Decoding.entityOf t.kind entry a = .ok e := by
  -- the checks come one after another, so the entity is that of the kind only if all of them pass
  rw [toEntity]
  cases htable : Pipeline.tableNamed? entry.table with
  | none => simp
  | some t =>
    simp only [bind_eq_ok_iff, Decoding.acceptedAction_eq_ok_iff,
      DecodeError.lift_matchKey_eq_ok_iff]
    constructor
    · rintro ⟨a, ⟨haction, haccepted⟩, ⟨⟩, hkey, hentity⟩
      exact ⟨t, a, rfl, haction, haccepted, hkey, hentity⟩
    · rintro ⟨_, a, hsame, haction, haccepted, hkey, hentity⟩
      cases hsame
      exact ⟨a, ⟨haction, haccepted⟩, (), hkey, hentity⟩

/-- What an entry decodes to is told by it, in the table of its kind. -/
theorem told_of_decode {entry : TableEntry} {e : Entity} (h : entry.decode = .ok e) :
    ∃ t ∈ Pipeline.tables, ∃ a, t.kind = e.kind ∧ entry.table = t.id ∧ entry.action = some a ∧
      a.id ∈ t.actions ∧ (∀ m ∈ entry.matchKey.fieldMatches, t.Declares m) ∧
      e.ToldBy entry a := by
  obtain ⟨t, a, htable, haction, haccepted, hkey, hentity⟩ :=
    toEntity_eq_ok_iff.mp (mapError_eq_ok_iff.mp h)
  obtain ⟨ht, hid⟩ := Pipeline.tableNamed?_eq_some_iff.mp htable
  have hkind : e.kind = t.kind := Decoding.kind_of_entityOf hentity
  have hfor : Pipeline.tableFor? e.kind = some t :=
    Pipeline.tableFor?_eq_some_iff.mpr ⟨ht, hkind.symm⟩
  rw [← hkind] at hentity
  exact ⟨t, ht, a, hkind.symm, hid.symm, haction, haccepted,
    (Pipeline.Table.checkKey_eq_ok_iff ht).mp hkey,
    (Decoding.entityOf_kind_eq_ok_iff hfor haccepted).mp hentity⟩

/-- An entry that tells an entity in the table of its kind decodes to it. -/
theorem decode_of_told {entry : TableEntry} {e : Entity} {t : Pipeline.Table} {a : Action}
    (ht : t ∈ Pipeline.tables) (hkind : t.kind = e.kind) (hid : entry.table = t.id)
    (haction : entry.action = some a) (haccepted : a.id ∈ t.actions)
    (hkey : ∀ m ∈ entry.matchKey.fieldMatches, t.Declares m) (htold : e.ToldBy entry a) :
    entry.decode = .ok e := by
  have hfor : Pipeline.tableFor? e.kind = some t :=
    Pipeline.tableFor?_eq_some_iff.mpr ⟨ht, hkind⟩
  have hentity : Decoding.entityOf t.kind entry a = .ok e := by
    rw [hkind]
    exact (Decoding.entityOf_kind_eq_ok_iff hfor haccepted).mpr htold
  refine mapError_eq_ok_iff.mpr (toEntity_eq_ok_iff.mpr ⟨t, a, ?_, haction, haccepted, ?_, hentity⟩)
  · exact Pipeline.tableNamed?_eq_some_iff.mpr ⟨ht, hid.symm⟩
  · exact (Pipeline.Table.checkKey_eq_ok_iff ht).mpr hkey

/-- **The language of table entries.** An entry decodes to an entity exactly if its table is the
one that the pipeline declares for the kind of the entity, its action is one that the table takes,
every match of its key, however many there are on one field, is on a field that the table declares
and of the declared kind, and it tells the entity: the first match or parameter of each name that
the kind and the action need is there, is in range and denotes the entity's value, and each value
that they do not need is absent or the usual one. -/
theorem decode_eq_ok_iff (entry : TableEntry) (e : Entity) :
    entry.decode = .ok e ↔
      ∃ t ∈ Pipeline.tables, ∃ a, t.kind = e.kind ∧ entry.table = t.id ∧
        entry.action = some a ∧ a.id ∈ t.actions ∧
        (∀ m ∈ entry.matchKey.fieldMatches, ⟨m.field, m.kind⟩ ∈ t.fields) ∧
        e.ToldBy entry a := by
  constructor
  · intro h
    exact told_of_decode h
  · rintro ⟨t, ht, a, hkind, hid, haction, haccepted, hkey, htold⟩
    exact decode_of_told ht hkind hid haction haccepted hkey htold

end TableEntry

end UserPlane
