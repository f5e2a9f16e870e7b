import UserPlane.Match
import UserPlane.Action

/-! # Table entries and counter cells

A **table entry** says what a table does with the packets that a match key selects. A device also
holds **counter cells**; a **device entity** is either of the two. Table entries, like actions, are
drafted step by step, and a draft without a table is no entry. -/

namespace UserPlane

/-- An entry of a match-action table. -/
structure TableEntry where
  /-- The table it belongs to. -/
  table : TableId
  /-- Which packets it matches. -/
  matchKey : MatchKey
  /-- Which of several matching entries wins, in tables where several can match. -/
  priority : Option Int32
  /-- What is done with the packets. -/
  action : Option Action
deriving DecidableEq

namespace TableEntry

/-- An entry, in words. -/
def describe (e : TableEntry) : String :=
  e.table.name ++ " match=" ++ e.matchKey.describe
    ++ (match e.priority with
      | some p => " priority=" ++ Decimal.signedText p.toInt
      | none => "")
    ++ " action="
    ++ (match e.action with
      | some a => a.describe
      | none => "<none>")

/-! ## Drafts -/

/-- A table entry in the making. -/
structure Draft where
  /-- The table, once it is given. -/
  table : Option TableId := none
  /-- The match key; at first it matches everything. -/
  matchKey : MatchKey := MatchKey.empty
  /-- The priority, if one is given. -/
  priority : Option Int32 := none
  /-- The action, if one is given. -/
  action : Option Action := none

/-- One statement about a table entry in the making. -/
inductive Setting where
  /-- The entry belongs to this table. -/
  | table (table : TableId)
  /-- The entry has this match key. -/
  | matchKey (key : MatchKey)
  /-- The entry has this priority. -/
  | priority (priority : Int32)
  /-- The entry has this action. -/
  | action (action : Action)

namespace Draft

/-- The draft after one more statement, which overrides earlier ones on the same subject. -/
def set (d : Draft) : Setting → Draft
  | .table t => { d with table := some t }
  | .matchKey k => { d with matchKey := k }
  | .priority p => { d with priority := some p }
  | .action a => { d with action := some a }

/-- The entry drafted, if it has a table. -/
def finish (d : Draft) : Except DraftError TableEntry :=
  match d.table with
  | some table => .ok ⟨table, d.matchKey, d.priority, d.action⟩
  | none => .error .missingTable

end Draft

/-- The entry that statements one after another describe. -/
def build (settings : List Setting) : Except DraftError TableEntry :=
  (settings.foldl Draft.set {}).finish

end TableEntry

/-! ## What a device holds -/

/-- A cell of a counter bank. -/
structure CounterCell where
  /-- The bank. -/
  counter : CounterId
  /-- The place of the cell in the bank. -/
  index : UInt64
deriving DecidableEq

/-- A counter cell, in words. -/
def CounterCell.describe (c : CounterCell) : String :=
  c.counter.name ++ "[" ++ Decimal.text c.index.toNat ++ "]"

/-- A table entry or a counter cell of a device. -/
inductive DeviceEntity where
  /-- An entry of a table. -/
  | tableEntry (entry : TableEntry)
  /-- A cell of a counter bank. -/
  | counterCell (cell : CounterCell)
deriving DecidableEq

namespace DeviceEntity

/-- The name of the sort of thing that a device entity is. -/
def sortName : DeviceEntity → String
  | tableEntry _ => "TABLE_ENTRY"
  | counterCell _ => "COUNTER_CELL"

/-- A device entity, in words. -/
def describe : DeviceEntity → String
  | tableEntry e => e.describe
  | counterCell c => c.describe

end DeviceEntity

end UserPlane
