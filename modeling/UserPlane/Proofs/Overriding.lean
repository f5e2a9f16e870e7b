import UserPlane.TableEntry
import UserPlane.Proofs.Declaration
import Mathlib.Data.Finset.Dedup
import Mathlib.Data.Finset.Card
import Mathlib.Data.List.Induction

/-! # Later statements override earlier ones

Keys, actions and table entries are made of **statements** in any number and order. Of several
statements on one subject the last one counts (`lastSaid`), and what is held on a subject while they
are made is that one in the end (`foldl_eq_lastSaid_or`). Of entries that are put one after
another under keys, each key keeps the place of the first and the value of the last
(`Keyed.LastWins`), which tells what is kept (`Keyed.LastWins.unique`). One more statement adds to
what a draft says (`Action.Draft.Says.set` and its like), and so **a draft says what was said last
on each subject**, and can be finished exactly if its name was given (`lastWins_of_drafts`). -/

namespace UserPlane

/-! ## The last statement on a subject -/

section LastSaid

variable {σ β : Type} (about : σ → Option β)

/-- What the last of the statements on a subject says about it. -/
def lastSaid (statements : List σ) : Option β := (statements.filterMap about).getLast?

/-- A statement on the subject overrides those before it. -/
theorem lastSaid_concat (statements : List σ) (s : σ) :
    lastSaid about (statements ++ [s]) = (about s).or (lastSaid about statements) := by
  rw [lastSaid, lastSaid, List.filterMap_append]
  cases h : about s with
  | none => simp [h]
  | some b => simp [h]

variable {about}

/-- **What is held on a subject is what was said last on it**, and before anything was said what was
held at the start, if each statement on the subject overrides what is held. -/
theorem foldl_eq_lastSaid_or {δ : Type} {set : δ → σ → δ} (held : δ → Option β)
    (hset : ∀ d s, held (set d s) = (about s).or (held d)) (start : δ) (statements : List σ) :
    held (statements.foldl set start) = (lastSaid about statements).or (held start) := by
  induction statements using List.reverseRecOn with
  | nil => rfl
  | append_singleton statements s ih =>
    rw [List.foldl_append, lastSaid_concat, Option.or_assoc, ← ih]
    exact hset _ s

/-- If the statements on a subject are those of one form, nothing is said on it exactly if there is
none of that form. -/
theorem lastSaid_eq_none_iff {form : β → σ} (hform : ∀ s b, about s = some b ↔ s = form b)
    {statements : List σ} : lastSaid about statements = none ↔ ∀ b, form b ∉ statements := by
  rw [lastSaid, List.getLast?_eq_none_iff, List.filterMap_eq_nil_iff]
  constructor
  · intro hnone b hmem
    cases (hnone _ hmem).symm.trans ((hform _ b).mpr rfl)
  · intro habsent s hs
    cases hsays : about s with
    | none => rfl
    | some b => exact absurd ((hform s b).mp hsays ▸ hs) (habsent b)

end LastSaid

/-! ## Entries under keys -/

namespace Keyed

variable {α κ : Type} [DecidableEq κ] (key : α → κ)

/-- A list without its duplicates takes one more element only if it has not come before. -/
theorem eraseDups_concat (ks : List κ) (k : κ) :
    (ks ++ [k]).eraseDups = if k ∈ ks then ks.eraseDups else ks.eraseDups ++ [k] := by
  rw [List.eraseDups_append]
  by_cases h : k ∈ ks
  · simp [List.removeAll, h]
  · simp [List.removeAll, h, List.eraseDups_cons]

/-- **What is kept of the entries that are given**: of each key the first place and the last
value. -/
structure LastWins (given kept : List α) : Prop where
  /-- No key is repeated. -/
  nodup : (kept.map key).Nodup
  /-- The keys are those given, in the order in which they first came. -/
  keys_eq : kept.map key = (given.map key).eraseDups
  /-- Under a key, the last entry that was given is found. -/
  find?_eq : ∀ k, find? key k kept = (given.filter fun e => key e = k).getLast?
  /-- Something is found under a key exactly if something was given. -/
  isSome_iff : ∀ k, (find? key k kept).isSome = true ↔ ∃ e ∈ given, key e = k
  /-- There are as many entries as different keys. -/
  length_eq : kept.length = (given.map key).toFinset.card

namespace LastWins

variable {key : α → κ} {given kept kept' : List α}

/-- **What is kept is told by its keys and by what is found under them.** -/
theorem of_keys_eq (hnodup : (kept.map key).Nodup)
    (hkeys : kept.map key = (given.map key).eraseDups)
    (hfind : ∀ k, find? key k kept = (given.filter fun e => key e = k).getLast?) :
    LastWins key given kept where
  nodup := hnodup
  keys_eq := hkeys
  find?_eq := hfind
  isSome_iff k := by
    rw [hfind, Option.isSome_iff_ne_none, ne_eq, List.getLast?_eq_none_iff,
      List.filter_eq_nil_iff]
    simp
  length_eq := by
    have hset : (kept.map key).toFinset = (given.map key).toFinset := by
      ext k
      rw [List.mem_toFinset, List.mem_toFinset, hkeys, List.mem_eraseDups]
    rw [← hset, List.toFinset_card_of_nodup hnodup, List.length_map]

/-- Of nothing, nothing is kept. -/
theorem nil : LastWins key [] [] := .of_keys_eq List.nodup_nil rfl fun _ => rfl

/-- **One more entry** takes the place of the one with its key, or the last place. -/
theorem put (h : LastWins key given kept) (e : α) :
    LastWins key (given ++ [e]) (put key e kept) := by
  apply of_keys_eq (nodup_put key h.nodup)
  · -- a key is kept exactly if it was given, so `e` is new among both or among neither
    have hmem : key e ∈ kept.map key ↔ key e ∈ given.map key := by
      rw [h.keys_eq, List.mem_eraseDups]
    rw [map_key_put, List.map_append, List.map_singleton, eraseDups_concat, ← h.keys_eq]
    exact if_congr hmem rfl rfl
  · intro k
    rw [List.filter_append]
    by_cases hkey : key e = k
    · rw [← hkey, find?_put_self]
      simp
    · rw [find?_put_of_ne key (Ne.symm hkey), h.find?_eq]
      simp [hkey]

/-- Entries with different keys are what is found under their keys. -/
theorem filterMap_find?_eq (h : (kept.map key).Nodup) :
    (kept.map key).filterMap (fun k => find? key k kept) = kept := by
  have hfind : ∀ e ∈ kept, find? key (key e) kept = some e :=
    fun e he => (find?_eq_some_iff h).mpr ⟨he, rfl⟩
  rw [List.filterMap_map]
  -- each key is replaced by the one entry that is found under it
  exact (List.filterMap_congr hfind).trans List.filterMap_some

/-- **There is one way to keep of each key the first place and the last value.** -/
theorem unique (h : LastWins key given kept) (h' : LastWins key given kept') : kept = kept' := by
  have hfind : ∀ k, find? key k kept = find? key k kept' :=
    fun k => (h.find?_eq k).trans (h'.find?_eq k).symm
  rw [← filterMap_find?_eq h.nodup, ← filterMap_find?_eq h'.nodup, h.keys_eq, h'.keys_eq]
  simp only [hfind]

end LastWins

end Keyed

/-! ## Match keys -/

/-- **A match key keeps the last match on each field**, in the place of the first. -/
theorem MatchKey.lastWins_ofMatches (ms : List FieldMatch) :
    Keyed.LastWins FieldMatch.field ms (ofMatches ms).fieldMatches := by
  induction ms using List.reverseRecOn with
  | nil => exact .nil
  | append_singleton ms m ih =>
    rw [ofMatches, List.foldl_append]
    exact ih.put m

/-! ## Actions -/

namespace Action

/-- The name that a statement gives. -/
def Setting.id? : Setting → Option ActionId
  | .id name => some name
  | .param _ => none

theorem Setting.id?_eq_some_iff (s : Setting) (name : ActionId) :
    s.id? = some name ↔ s = .id name := by
  cases s <;> simp [id?]

/-- The parameter that a statement gives. -/
def Setting.param? : Setting → Option ActionParam
  | .id _ => none
  | .param p => some p

/-- What a draft says after some statements. -/
structure Draft.Says (d : Draft) (settings : List Setting) : Prop where
  /-- The name that was given last. -/
  id_eq : d.id = lastSaid Setting.id? settings
  /-- Of each parameter, what was given last. -/
  params : Keyed.LastWins ActionParam.id (settings.filterMap Setting.param?) d.params

variable {settings : List Setting}

/-- **One more statement** overrides what was said on its subject. -/
theorem Draft.Says.set {d : Draft} (h : d.Says settings) (s : Setting) :
    (d.set s).Says (settings ++ [s]) := by
  cases s with
  | id name =>
    constructor
    · rw [lastSaid_concat]
      rfl
    · rw [List.filterMap_append, List.filterMap_cons_none rfl, List.filterMap_nil, List.append_nil]
      exact h.params
  | param p =>
    constructor
    · rw [lastSaid_concat]
      exact h.id_eq
    · rw [List.filterMap_append]
      exact h.params.put p

/-- **A draft says what was said last.** -/
theorem Draft.says_foldl_set (settings : List Setting) :
    (settings.foldl Draft.set {}).Says settings := by
  induction settings using List.reverseRecOn with
  | nil => exact ⟨rfl, .nil⟩
  | append_singleton settings s ih =>
    rw [List.foldl_append]
    exact ih.set s

/-- An action is built exactly if it is named, and is what was said last. -/
theorem build_eq_ok_iff {a : Action} :
    build settings = .ok a ↔ lastSaid Setting.id? settings = some a.id ∧
      Keyed.LastWins ActionParam.id (settings.filterMap Setting.param?) a.params := by
  obtain ⟨hid, hparams⟩ := Draft.says_foldl_set settings
  obtain ⟨id, params⟩ := a
  rw [build, Draft.finish, ← hid]
  cases h : (settings.foldl Draft.set {}).id with
  | none => simp
  | some name =>
    -- the parameters are told by what is kept of them, as there is one way to keep them
    simp only [Except.ok.injEq, Action.mk.injEq, Option.some.injEq]
    apply and_congr_right
    intro _
    constructor
    · rintro rfl
      exact hparams
    · exact hparams.unique

/-- An action cannot be built exactly if no name was given. -/
theorem build_eq_error_iff :
    build settings = .error .missingAction ↔ ∀ id, Setting.id id ∉ settings := by
  obtain ⟨hid, -⟩ := Draft.says_foldl_set settings
  rw [build, Draft.finish, ← lastSaid_eq_none_iff Setting.id?_eq_some_iff, ← hid]
  cases (settings.foldl Draft.set {}).id with
  | none => simp
  | some name => simp

/-- An action can be built exactly if a name was given. -/
theorem exists_build_eq_ok_iff :
    (∃ a, build settings = .ok a) ↔ ∃ id, Setting.id id ∈ settings := by
  have hfails : (∃ a, build settings = .ok a) ↔ build settings ≠ .error .missingAction := by
    rw [build, Draft.finish]
    cases (settings.foldl Draft.set {}).id with
    | none => simp
    | some name => simp
  rw [hfails, ne_eq, build_eq_error_iff]
  simp

end Action

/-! ## Table entries -/

namespace TableEntry

/-- The table that a statement gives. -/
def Setting.table? : Setting → Option TableId
  | .table t => some t
  | _ => none

theorem Setting.table?_eq_some_iff (s : Setting) (t : TableId) :
    s.table? = some t ↔ s = .table t := by
  cases s <;> simp [table?]

/-- The match key that a statement gives. -/
def Setting.matchKey? : Setting → Option MatchKey
  | .matchKey k => some k
  | _ => none

/-- The priority that a statement gives. -/
def Setting.priority? : Setting → Option Int32
  | .priority p => some p
  | _ => none

/-- The action that a statement gives. -/
def Setting.action? : Setting → Option Action
  | .action a => some a
  | _ => none

/-- What a draft says after some statements. -/
structure Draft.Says (d : Draft) (settings : List Setting) : Prop where
  /-- The table that was given last. -/
  table_eq : d.table = lastSaid Setting.table? settings
  /-- The match key that was given last, or the one that matches everything. -/
  matchKey_eq : d.matchKey = (lastSaid Setting.matchKey? settings).getD .empty
  /-- The priority that was given last. -/
  priority_eq : d.priority = lastSaid Setting.priority? settings
  /-- The action that was given last. -/
  action_eq : d.action = lastSaid Setting.action? settings

variable {settings : List Setting}

/-- **One more statement** overrides what was said on its subject. -/
theorem Draft.Says.set {d : Draft} (h : d.Says settings) (s : Setting) :
    (d.set s).Says (settings ++ [s]) := by
  obtain ⟨htable, hkey, hpriority, haction⟩ := h
  -- a statement is about one of the four subjects, and on the others all stays as it was
  constructor <;> rw [lastSaid_concat]
  · cases s with
    | table t => rfl
    | _ => exact htable
  · cases s with
    | matchKey k => rfl
    | _ => exact hkey
  · cases s with
    | priority p => rfl
    | _ => exact hpriority
  · cases s with
    | action a => rfl
    | _ => exact haction

/-- **A draft says what was said last.** -/
theorem Draft.says_foldl_set (settings : List Setting) :
    (settings.foldl Draft.set {}).Says settings := by
  induction settings using List.reverseRecOn with
  | nil => exact ⟨rfl, rfl, rfl, rfl⟩
  | append_singleton settings s ih =>
    rw [List.foldl_append]
    exact ih.set s

/-- An entry is built exactly if it has a table, and is what was said last. -/
theorem build_eq_ok_iff {e : TableEntry} :
    build settings = .ok e ↔
      lastSaid Setting.table? settings = some e.table ∧
      e.matchKey = (lastSaid Setting.matchKey? settings).getD .empty ∧
      e.priority = lastSaid Setting.priority? settings ∧
      e.action = lastSaid Setting.action? settings := by
  obtain ⟨htable, hkey, hpriority, haction⟩ := Draft.says_foldl_set settings
  obtain ⟨t, k, p, a⟩ := e
  rw [build, Draft.finish, ← htable, ← hkey, ← hpriority, ← haction]
  cases h : (settings.foldl Draft.set {}).table with
  | none => simp
  | some name => simp [eq_comm]

/-- An entry cannot be built exactly if no table was given. -/
theorem build_eq_error_iff :
    build settings = .error .missingTable ↔ ∀ t, Setting.table t ∉ settings := by
  obtain ⟨htable, -, -, -⟩ := Draft.says_foldl_set settings
  rw [build, Draft.finish, ← lastSaid_eq_none_iff Setting.table?_eq_some_iff, ← htable]
  cases (settings.foldl Draft.set {}).table with
  | none => simp
  | some t => simp

/-- An entry can be built exactly if a table was given. -/
theorem exists_build_eq_ok_iff :
    (∃ e, build settings = .ok e) ↔ ∃ t, Setting.table t ∈ settings := by
  have hfails : (∃ e, build settings = .ok e) ↔ build settings ≠ .error .missingTable := by
    rw [build, Draft.finish]
    cases (settings.foldl Draft.set {}).table with
    | none => simp
    | some t => simp
  rw [hfails, ne_eq, build_eq_error_iff]
  simp

end TableEntry

/-! ## Everything that is drafted -/

/-- **Later statements override earlier ones**, in keys, actions and table entries alike.

* A match key has of each field the first place and the last match: it is looked up under the
  field, the key matches on the field if one was given, and there are as many matches as fields.
* An action cannot be built exactly if it was never named. Otherwise one is built, which has the
  last name, and of each parameter the first place and the last value: it is looked up under the
  name of the parameter, and there is none exactly if none was given.
* A table entry cannot be built exactly if it was never given a table. Otherwise one is built, which
  has the last of what was given on each subject; a match key that was never given matches
  everything. -/
theorem lastWins_of_drafts :
    (∀ ms : List FieldMatch,
      Keyed.LastWins FieldMatch.field ms (MatchKey.ofMatches ms).fieldMatches ∧
      (MatchKey.ofMatches ms).length = (ms.map FieldMatch.field).toFinset.card ∧
      ∀ field,
        (MatchKey.ofMatches ms).find? field = (ms.filter fun m => m.field = field).getLast? ∧
        ((MatchKey.ofMatches ms).contains field = true ↔ ∃ m ∈ ms, m.field = field)) ∧
    (∀ settings : List Action.Setting,
      (Action.build settings = .error .missingAction ↔ ∀ id, .id id ∉ settings) ∧
      ((∃ a, Action.build settings = .ok a) ↔ ∃ id, .id id ∈ settings) ∧
      (∀ a, Action.build settings = .ok a ↔
        lastSaid Action.Setting.id? settings = some a.id ∧
        Keyed.LastWins ActionParam.id (settings.filterMap Action.Setting.param?) a.params) ∧
      ∀ a, Action.build settings = .ok a → ∀ id,
        a.param? id =
          ((settings.filterMap Action.Setting.param?).filter fun p => p.id = id).getLast? ∧
        ((a.param? id).isSome = true ↔
          ∃ p ∈ settings.filterMap Action.Setting.param?, p.id = id)) ∧
    ∀ settings : List TableEntry.Setting,
      (TableEntry.build settings = .error .missingTable ↔ ∀ t, .table t ∉ settings) ∧
      ((∃ e, TableEntry.build settings = .ok e) ↔ ∃ t, .table t ∈ settings) ∧
      ∀ e, TableEntry.build settings = .ok e ↔
        lastSaid TableEntry.Setting.table? settings = some e.table ∧
        e.matchKey = (lastSaid TableEntry.Setting.matchKey? settings).getD .empty ∧
        e.priority = lastSaid TableEntry.Setting.priority? settings ∧
        e.action = lastSaid TableEntry.Setting.action? settings := by
  refine ⟨?_, ?_, ?_⟩
  · intro ms
    have h := MatchKey.lastWins_ofMatches ms
    exact ⟨h, h.length_eq, fun field => ⟨h.find?_eq field, h.isSome_iff field⟩⟩
  · intro settings
    refine ⟨Action.build_eq_error_iff, Action.exists_build_eq_ok_iff,
      fun a => Action.build_eq_ok_iff, ?_⟩
    intro a ha id
    obtain ⟨-, h⟩ := Action.build_eq_ok_iff.mp ha
    exact ⟨h.find?_eq id, h.isSome_iff id⟩
  · intro settings
    exact ⟨TableEntry.build_eq_error_iff, TableEntry.exists_build_eq_ok_iff,
      fun e => TableEntry.build_eq_ok_iff⟩

/-- A parameter that is given again keeps its place, whatever is said between, and is found with its
last value. -/
theorem lastWins_of_drafts_counterTwice :
    ∃ a,
      Action.build [.param ⟨.counter, ⟨[1]⟩⟩, .id .dropUplink, .param ⟨.teid, ⟨[5]⟩⟩,
          .param ⟨.counter, ⟨[2]⟩⟩] = .ok a ∧
        a.params = [⟨.counter, ⟨[2]⟩⟩, ⟨.teid, ⟨[5]⟩⟩] ∧
        a.param? .counter = some ⟨.counter, ⟨[2]⟩⟩ ∧ (a.param? .qfi).isSome = false := by
  have hfound := (lastWins_of_drafts.2.1 [.param ⟨.counter, ⟨[1]⟩⟩, .id .dropUplink,
    .param ⟨.teid, ⟨[5]⟩⟩, .param ⟨.counter, ⟨[2]⟩⟩]).2.2.2 _ rfl
  refine ⟨_, rfl, rfl, (hfound .counter).1, ?_⟩
  rw [(hfound .qfi).1]
  rfl

end UserPlane
