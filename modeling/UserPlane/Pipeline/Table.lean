import UserPlane.Entity.Basic
import UserPlane.Match
import UserPlane.Pipeline.Names

/-! # The tables of the pipeline

Each kind of entity but the counters has a **table** of its own, which declares the fields that its
entries may match on, each with the one match kind it is matched by, and the actions that its
entries may apply. **`Table.checkKey`** tells whether a match key keeps to the declaration: every
field match of the key is looked at, in order, and the first that does not is reported. -/

namespace UserPlane.Pipeline

/-- A match field as a table declares it. -/
structure MatchField where
  /-- The field. -/
  id : FieldId
  /-- How the field is matched. -/
  kind : MatchKind
deriving DecidableEq

/-- A table as the pipeline declares it. -/
structure Table where
  /-- The kind of entity that an entry programs. -/
  kind : EntityKind
  /-- The table's name. -/
  id : TableId
  /-- The fields that entries may match on. -/
  fields : List MatchField
  /-- The actions that entries may apply. -/
  actions : List ActionId
deriving DecidableEq

/-- How a match key can break a table's declaration. -/
inductive MatchKeyError where
  /-- The table has no such field. -/
  | unknownField (table : TableId) (field : FieldId)
  /-- The field is matched in another way than declared. -/
  | wrongKind (field : FieldId) (expected actual : MatchKind)
deriving DecidableEq

/-- What is wrong with a match key, in words. -/
def MatchKeyError.message : MatchKeyError → String
  | unknownField table field =>
    "table '" ++ table.name ++ "' has no match field '" ++ field.name ++ "'"
  | wrongKind field expected actual =>
    "match field '" ++ field.name ++ "' is " ++ actual.name ++ ", expected " ++ expected.name

namespace Table

/-- Whether the table's entries may apply an action. -/
def accepts (t : Table) (action : ActionId) : Bool := t.actions.contains action

/-- How the table's entries match on a field, if they may. -/
def matchKind? (t : Table) (field : FieldId) : Option MatchKind :=
  (t.fields.find? fun f => f.id = field).map MatchField.kind

/-- Whether a field match keeps to the declaration. -/
def checkMatch (t : Table) (m : FieldMatch) : Except MatchKeyError Unit :=
  match t.matchKind? m.field with
  | none => .error (.unknownField t.id m.field)
  | some expected =>
    if expected = m.kind then .ok () else .error (.wrongKind m.field expected m.kind)

/-- Whether field matches keep to the declaration; the first that does not is reported. -/
def checkMatches (t : Table) : List FieldMatch → Except MatchKeyError Unit
  | [] => .ok ()
  | m :: rest =>
    match t.checkMatch m with
    | .ok () => t.checkMatches rest
    | .error e => .error e

/-- Whether a match key keeps to the declaration. Declared fields may be left out. -/
def checkKey (t : Table) (key : MatchKey) : Except MatchKeyError Unit :=
  t.checkMatches key.fieldMatches

/-- A field match keeps to the declaration exactly if its field is declared with its kind. -/
theorem checkMatch_eq_ok_iff {t : Table} {m : FieldMatch} :
    t.checkMatch m = .ok () ↔ t.matchKind? m.field = some m.kind := by
  unfold checkMatch
  split
  · rename_i h
    simp [h]
  · rename_i expected h
    rw [h]
    split
    · rename_i he
      simp [he]
    · rename_i he
      simp [he]

/-- Field matches keep to the declaration exactly if each of them does. -/
theorem checkMatches_eq_ok_iff {t : Table} {ms : List FieldMatch} :
    t.checkMatches ms = .ok () ↔ ∀ m ∈ ms, t.matchKind? m.field = some m.kind := by
  induction ms with
  | nil => simp [checkMatches]
  | cons m rest ih =>
    rw [List.forall_mem_cons, ← checkMatch_eq_ok_iff, ← ih, checkMatches]
    cases h : t.checkMatch m with
    | ok u => simp
    | error e => simp

end Table

/-! ## The declaration -/

/-- The table of interfaces. -/
def interfaces : Table where
  kind := .interface
  id := .interfaces
  fields := [⟨.destinationPrefix, .longestPrefix⟩]
  actions := [.setSourceInterface]

/-- The table of uplink sessions. -/
def uplinkSessions : Table where
  kind := .uplinkSession
  id := .uplinkSessions
  fields := [⟨.n3Address, .exact⟩, ⟨.teid, .exact⟩]
  actions := [.setUplinkSession, .dropUplinkSession]

/-- The table of downlink sessions. -/
def downlinkSessions : Table where
  kind := .downlinkSession
  id := .downlinkSessions
  fields := [⟨.ueAddress, .exact⟩]
  actions := [.setDownlinkSession, .dropDownlinkSession, .bufferDownlinkSession]

/-- The table of uplink terminations. -/
def uplinkTerminations : Table where
  kind := .uplinkTermination
  id := .uplinkTerminations
  fields := [⟨.ueAddress, .exact⟩, ⟨.application, .exact⟩]
  actions := [.forwardUplink, .forwardUplinkUnclassified, .dropUplink]

/-- The table of downlink terminations. -/
def downlinkTerminations : Table where
  kind := .downlinkTermination
  id := .downlinkTerminations
  fields := [⟨.ueAddress, .exact⟩, ⟨.application, .exact⟩]
  actions := [.forwardDownlink, .forwardDownlinkUnclassified, .dropDownlink]

/-- The table of tunnel peers. -/
def tunnelPeers : Table where
  kind := .tunnelPeer
  id := .tunnelPeers
  fields := [⟨.tunnelPeer, .exact⟩]
  actions := [.loadTunnel]

/-- The table of applications. -/
def applications : Table where
  kind := .application
  id := .applications
  fields := [⟨.applicationAddress, .longestPrefix⟩, ⟨.applicationPort, .range⟩,
    ⟨.applicationProtocol, .ternary⟩]
  actions := [.setApplication]

/-- Every table, in the order of the pipeline. -/
def tables : List Table :=
  [interfaces, uplinkSessions, downlinkSessions, uplinkTerminations, downlinkTerminations,
    tunnelPeers, applications]

/-- The counter banks. -/
def counters : List CounterId := [.beforeQos, .afterQos]

/-- The table that holds entities of a kind; counters are in no table. -/
def tableFor? : EntityKind → Option Table
  | .interface => some interfaces
  | .uplinkSession => some uplinkSessions
  | .downlinkSession => some downlinkSessions
  | .uplinkTermination => some uplinkTerminations
  | .downlinkTermination => some downlinkTerminations
  | .tunnelPeer => some tunnelPeers
  | .application => some applications
  | .counter => none

/-- The table with a name. -/
def tableNamed? (id : TableId) : Option Table := tables.find? fun t => t.id = id

/-- Whether a counter bank counts user-plane traffic. -/
def countsTraffic (counter : CounterId) : Bool := counters.contains counter

/-- The table for a kind holds that kind. -/
theorem kind_of_tableFor? {k : EntityKind} {t : Table} (h : tableFor? k = some t) :
    t.kind = k := by
  cases k <;> first | (injection h with h; subst h; rfl) | cases h

/-- The table for a kind is found by its name. -/
theorem tableNamed?_of_tableFor? {k : EntityKind} {t : Table} (h : tableFor? k = some t) :
    tableNamed? t.id = some t := by
  cases k <;> first | (injection h with h; subst h; decide) | cases h

end UserPlane.Pipeline
