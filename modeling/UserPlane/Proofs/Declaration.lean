import UserPlane.Proofs.Outcome
import UserPlane.Pipeline.Table
import Mathlib.Data.List.Nodup

/-! # What the declaration of the pipeline says

Looking something up by its key among entries with different keys finds exactly the entries there
are (`Keyed.find?_eq_some_iff`). The declaration keeps its names apart: no two tables have one name
or hold one kind, and no table declares a field twice. So the table with a name, the table for a
kind and the match kind of a field are what the lists of the declaration hold, and a match key keeps
to a table exactly if **every field match is one that the table declares**. Each action takes
parameters of its own (`ActionId.params`), none of them twice, and all but two of them are read
(`ActionId.Reads`). -/

namespace UserPlane

/-! ## Looking up by key -/

/-- Among entries with different keys, what is found under a key is the entry that has it. -/
theorem Keyed.find?_eq_some_iff {α κ : Type} [DecidableEq κ] {key : α → κ} {entries : List α}
    (hdistinct : (entries.map key).Nodup) {k : κ} {e : α} :
    Keyed.find? key k entries = some e ↔ e ∈ entries ∧ key e = k := by
  rw [find?_eq_some_iff_append]
  constructor
  · rintro ⟨hkey, before, after, rfl, -⟩
    exact ⟨List.mem_append_right before List.mem_cons_self, hkey⟩
  · rintro ⟨hmem, rfl⟩
    obtain ⟨before, after, rfl⟩ := List.append_of_mem hmem
    refine ⟨rfl, before, after, rfl, ?_⟩
    intro b hb hkey
    -- an entry with the key before this one would repeat the key
    rw [List.map_append, List.map_cons, List.nodup_append] at hdistinct
    exact hdistinct.2.2 (key b) (List.mem_map_of_mem hb) (key e) List.mem_cons_self hkey

/-- Nothing is found under a key exactly if no entry has it. -/
theorem Keyed.find?_eq_none_iff {α κ : Type} [DecidableEq κ] {key : α → κ} {k : κ}
    {entries : List α} : Keyed.find? key k entries = none ↔ ∀ e ∈ entries, key e ≠ k := by
  rw [find?, List.find?_eq_none]
  simp only [decide_eq_true_eq, ne_eq]

/-- Among entries with different keys, the order does not matter to what is found. -/
theorem Keyed.find?_eq_of_perm {α κ : Type} [DecidableEq κ] {key : α → κ} {entries others : List α}
    (hdistinct : (entries.map key).Nodup) (hperm : entries.Perm others) (k : κ) :
    Keyed.find? key k entries = Keyed.find? key k others := by
  have hothers : (others.map key).Nodup := (hperm.map key).nodup_iff.mp hdistinct
  ext e
  rw [find?_eq_some_iff hdistinct, find?_eq_some_iff hothers, hperm.mem_iff]

/-- An entry with another key does not matter to what is found. -/
theorem Keyed.find?_append_cons_of_ne {α κ : Type} [DecidableEq κ] {key : α → κ} {e : α} {k : κ}
    (hkey : key e ≠ k) (before after : List α) :
    Keyed.find? key k (before ++ e :: after) = Keyed.find? key k (before ++ after) := by
  rw [find?, find?, List.find?_append, List.find?_append, List.find?_cons, decide_eq_false hkey]

/-- An entry in the place of one that has the same key and counts for the same changes nothing. -/
theorem Keyed.map_find?_append_cons {α β κ : Type} [DecidableEq κ] {key : α → κ} {old new : α}
    (hkey : key old = key new) (f : α → β) (hf : f old = f new) (k : κ) (before after : List α) :
    (Keyed.find? key k (before ++ old :: after)).map f =
      (Keyed.find? key k (before ++ new :: after)).map f := by
  rw [find?, find?, List.find?_append, List.find?_append, List.find?_cons, List.find?_cons, hkey]
  by_cases hk : key new = k
  · rw [decide_eq_true hk]
    cases before.find? fun e => key e = k with
    | none => exact congrArg some hf
    | some e => rfl
  · rw [decide_eq_false hk]

namespace Pipeline

/-! ## Tables -/

/-- No two tables have one name. -/
theorem nodup_tableIds : (tables.map Table.id).Nodup := by decide

/-- The table with a name is the one that the pipeline declares under it. -/
theorem tableNamed?_eq_some_iff {id : TableId} {t : Table} :
    tableNamed? id = some t ↔ t ∈ tables ∧ t.id = id :=
  Keyed.find?_eq_some_iff nodup_tableIds

/-- The table for a kind is the one that the pipeline declares for it. -/
theorem tableFor?_eq_some_iff {k : EntityKind} {t : Table} :
    tableFor? k = some t ↔ t ∈ tables ∧ t.kind = k := by
  constructor
  · intro h
    have hnamed := tableNamed?_of_tableFor? h
    exact ⟨(tableNamed?_eq_some_iff.mp hnamed).1, kind_of_tableFor? h⟩
  · rintro ⟨hmem, rfl⟩
    have hall : ∀ t ∈ tables, tableFor? t.kind = some t := by decide
    exact hall t hmem

/-! ## Actions and fields -/

namespace Table

/-- A table takes the actions that it declares. -/
theorem accepts_eq_true_iff {t : Table} {action : ActionId} :
    t.accepts action = true ↔ action ∈ t.actions := by
  rw [accepts, List.contains_iff_mem]

/-- A field match keeps to a table that declares its field with its kind. -/
def Declares (t : Table) (m : FieldMatch) : Prop := ⟨m.field, m.kind⟩ ∈ t.fields

instance (t : Table) (m : FieldMatch) : Decidable (t.Declares m) :=
  inferInstanceAs (Decidable (_ ∈ _))

/-- No table declares a field twice. -/
theorem nodup_fieldIds {t : Table} (ht : t ∈ tables) : (t.fields.map MatchField.id).Nodup := by
  have hall : ∀ t ∈ tables, (t.fields.map MatchField.id).Nodup := by decide
  exact hall t ht

/-- The kind of a field is the one that the table declares it with. -/
theorem matchKind?_eq_some_iff {t : Table} (ht : t ∈ tables) {field : FieldId}
    {kind : MatchKind} : t.matchKind? field = some kind ↔ ⟨field, kind⟩ ∈ t.fields := by
  have hfind : ∀ f, (t.fields.find? fun f => f.id = field) = some f ↔
      f ∈ t.fields ∧ f.id = field := fun f => Keyed.find?_eq_some_iff (nodup_fieldIds ht)
  rw [matchKind?, Option.map_eq_some_iff]
  constructor
  · rintro ⟨⟨id, k⟩, hf, rfl⟩
    obtain ⟨hmem, rfl⟩ := (hfind _).mp hf
    exact hmem
  · intro hmem
    exact ⟨⟨field, kind⟩, (hfind _).mpr ⟨hmem, rfl⟩, rfl⟩

/-- A table declares a field with one kind. -/
theorem kind_unique {t : Table} (ht : t ∈ tables) {field : FieldId}
    {kind kind' : MatchKind} (h : ⟨field, kind⟩ ∈ t.fields) (h' : ⟨field, kind'⟩ ∈ t.fields) :
    kind = kind' := by
  have hkind := (matchKind?_eq_some_iff ht).mpr h
  rw [(matchKind?_eq_some_iff ht).mpr h'] at hkind
  exact (Option.some.inj hkind).symm

/-- **A match key keeps to a table exactly if the table declares every field match of it.** -/
theorem checkKey_eq_ok_iff {t : Table} (ht : t ∈ tables) {key : MatchKey} :
    t.checkKey key = .ok () ↔ ∀ m ∈ key.fieldMatches, t.Declares m := by
  rw [checkKey, checkMatches_eq_ok_iff]
  constructor
  · intro h m hm
    exact (matchKind?_eq_some_iff ht).mp (h m hm)
  · intro h m hm
    exact (matchKind?_eq_some_iff ht).mpr (h m hm)

/-- A key that matches the fields of a table in the way that the table declares. -/
def KindsKeptBy (t : Table) (key : MatchKey) : Prop :=
  ∀ ⦃field kind⦄, ⟨field, kind⟩ ∈ t.fields →
    ∀ v, key.find? field = some ⟨field, v⟩ → v.kind = kind

/-- A key that keeps to a table matches the fields in the way that the table declares. -/
theorem kindsKeptBy_of_checkKey {t : Table} (ht : t ∈ tables) {key : MatchKey}
    (hkey : t.checkKey key = .ok ()) : t.KindsKeptBy key := by
  intro field kind hdeclared v hfind
  have hmem : ⟨field, v⟩ ∈ key.fieldMatches := List.mem_of_find?_eq_some hfind
  exact kind_unique ht ((checkKey_eq_ok_iff ht).mp hkey _ hmem) hdeclared

end Table

/-- Downlink sessions are forwarded, dropped or buffered. -/
theorem mem_actions_downlinkSessions {id : ActionId} :
    id ∈ downlinkSessions.actions ↔
      id = .setDownlinkSession ∨ id = .dropDownlinkSession ∨ id = .bufferDownlinkSession := by
  simp only [downlinkSessions, List.mem_cons, List.not_mem_nil, or_false]

/-- Downlink terminations forward with or without a traffic class, or drop. -/
theorem mem_actions_downlinkTerminations {id : ActionId} :
    id ∈ downlinkTerminations.actions ↔
      id = .forwardDownlink ∨ id = .forwardDownlinkUnclassified ∨ id = .dropDownlink := by
  simp only [downlinkTerminations, List.mem_cons, List.not_mem_nil, or_false]

end Pipeline

/-! ## Parameters -/

/-- The actions of the pipeline, each with the parameters that it takes, in order. -/
def Pipeline.actionParams : List (ActionId × List ParamId) :=
  [(.setSourceInterface, [.sourceInterface, .direction, .slice]),
    (.setUplinkSession, []),
    (.dropUplinkSession, []),
    (.setDownlinkSession, [.tunnelPeer]),
    (.dropDownlinkSession, []),
    (.bufferDownlinkSession, []),
    (.forwardUplink, [.counter, .trafficClass]),
    (.forwardUplinkUnclassified, [.counter]),
    (.dropUplink, [.counter]),
    (.forwardDownlink, [.counter, .teid, .qfi, .trafficClass]),
    (.forwardDownlinkUnclassified, [.counter, .teid, .qfi]),
    (.dropDownlink, [.counter]),
    (.loadTunnel, [.source, .destination, .sourcePort]),
    (.setApplication, [.application])]

namespace ActionId

variable {id : ActionId} {param : ParamId}

/-- The parameters that an action takes; one that the pipeline does not know takes none. -/
def params (id : ActionId) : List ParamId :=
  ((Keyed.find? Prod.fst id Pipeline.actionParams).map Prod.snd).getD []

/-- An action takes the parameters that are listed with it. -/
theorem mem_params_iff :
    param ∈ id.params ↔ ∃ params, (id, params) ∈ Pipeline.actionParams ∧ param ∈ params := by
  have hdistinct : (Pipeline.actionParams.map Prod.fst).Nodup := by decide
  rw [params]
  cases hfind : Keyed.find? Prod.fst id Pipeline.actionParams with
  | none =>
    refine iff_of_false List.not_mem_nil ?_
    rintro ⟨params, hmem, -⟩
    rw [(Keyed.find?_eq_some_iff hdistinct).mpr ⟨hmem, rfl⟩] at hfind
    cases hfind
  | some entry =>
    obtain ⟨hmem, rfl⟩ := (Keyed.find?_eq_some_iff hdistinct).mp hfind
    constructor
    · intro hparam
      exact ⟨entry.2, hmem, hparam⟩
    · rintro ⟨params, hother, hparam⟩
      rw [(Keyed.find?_eq_some_iff hdistinct).mpr ⟨hother, rfl⟩] at hfind
      rw [← Option.some.inj hfind]
      exact hparam

/-- No action takes a parameter twice. -/
theorem nodup_params (id : ActionId) : id.params.Nodup := by
  have hall : ∀ entry ∈ Pipeline.actionParams, entry.2.Nodup := by decide
  rw [params]
  cases hfind : Keyed.find? Prod.fst id Pipeline.actionParams with
  | none => exact List.nodup_nil
  | some entry => exact hall entry (List.mem_of_find?_eq_some hfind)

/-- The actions that take a parameter are those that it is listed with. -/
theorem mem_params_iff_mem {ids : List ActionId}
    (hids : ∀ id ∈ ids, id ∈ Pipeline.actionParams.map Prod.fst)
    (hlisted : ∀ entry ∈ Pipeline.actionParams, param ∈ entry.2 ↔ entry.1 ∈ ids) :
    param ∈ id.params ↔ id ∈ ids := by
  rw [mem_params_iff]
  constructor
  · rintro ⟨params, hmem, hparam⟩
    exact (hlisted _ hmem).mp hparam
  · intro hid
    obtain ⟨⟨_, params⟩, hmem, rfl⟩ := List.mem_map.mp (hids id hid)
    exact ⟨params, hmem, (hlisted _ hmem).mpr hid⟩

/-- A parameter that is looked at when the action is read. What is said about the direction and the
slice of an interface is for the device only. -/
def Reads (id : ActionId) (param : ParamId) : Prop :=
  param ∈ id.params ∧ param ≠ .direction ∧ param ≠ .slice

instance (id : ActionId) (param : ParamId) : Decidable (id.Reads param) :=
  inferInstanceAs (Decidable (_ ∧ _))

/-- A class goes with the two actions that send traffic on in one. -/
theorem trafficClass_mem_params_iff :
    .trafficClass ∈ id.params ↔ id ∈ [forwardUplink, forwardDownlink] :=
  mem_params_iff_mem (by decide) (by decide)

/-- An endpoint goes with the two actions that send traffic on through a tunnel. -/
theorem teid_mem_params_iff :
    .teid ∈ id.params ↔ id ∈ [forwardDownlink, forwardDownlinkUnclassified] :=
  mem_params_iff_mem (by decide) (by decide)

/-- A flow goes with the two actions that send traffic on through a tunnel. -/
theorem qfi_mem_params_iff :
    .qfi ∈ id.params ↔ id ∈ [forwardDownlink, forwardDownlinkUnclassified] :=
  mem_params_iff_mem (by decide) (by decide)

/-- A peer goes with the action that forwards a downlink session. -/
theorem tunnelPeer_mem_params_iff : .tunnelPeer ∈ id.params ↔ id ∈ [setDownlinkSession] :=
  mem_params_iff_mem (by decide) (by decide)

end ActionId

end UserPlane
