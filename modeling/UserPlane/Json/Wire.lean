import UserPlane.Json.Shape
import UserPlane.Prefix
import UserPlane.TableEntry

/-! # Wire values in JSON

The JSON forms of byte strings, addresses, prefixes and identifiers, which are strings, and of match
keys, actions, table entries and counter cells, which are records. Each type has a writer, `toJson`,
and a reader, `ofJson?`, which takes what the writer gives and the other spellings of a record. -/

namespace UserPlane

/-! ## Values written as strings -/

/-- A byte string is written as its text. -/
def ByteString.toJson (b : ByteString) : Json := .string b.text

/-- The byte string that a JSON value is. -/
def ByteString.ofJson? (j : Json) : Option ByteString := do (ofText (← j.string?)).toOption

/-- An address is written as its text. -/
def Address.toJson (a : Address) : Json := .string a.text

/-- The address that a JSON value is. -/
def Address.ofJson? (j : Json) : Option Address := do (ofText (← j.string?)).toOption

/-- A prefix is written as its text. -/
def Prefix.toJson (p : Prefix) : Json := .string p.text

/-- The prefix that a JSON value is. -/
def Prefix.ofJson? (j : Json) : Option Prefix := do (ofText (← j.string?)).toOption

/-- A table is written as its name. -/
def TableId.toJson (id : TableId) : Json := .string id.name

/-- The table that a JSON value names. -/
def TableId.ofJson? (j : Json) : Option TableId := j.string?.map mk

/-- A field is written as its name. -/
def FieldId.toJson (id : FieldId) : Json := .string id.name

/-- The field that a JSON value names. -/
def FieldId.ofJson? (j : Json) : Option FieldId := j.string?.map mk

/-- An action's name, as such. -/
def ActionId.toJson (id : ActionId) : Json := .string id.name

/-- The action that a JSON value names. -/
def ActionId.ofJson? (j : Json) : Option ActionId := j.string?.map mk

/-- A parameter's name, as such. -/
def ParamId.toJson (id : ParamId) : Json := .string id.name

/-- The parameter that a JSON value names. -/
def ParamId.ofJson? (j : Json) : Option ParamId := j.string?.map mk

/-- A counter bank is written as its name. -/
def CounterId.toJson (id : CounterId) : Json := .string id.name

/-- The counter bank that a JSON value names. -/
def CounterId.ofJson? (j : Json) : Option CounterId := j.string?.map mk

/-! ## Match keys -/

namespace MatchKind

/-- The tag of a match kind. -/
def tag : MatchKind → String
  | exact => "exact"
  | longestPrefix => "lpm"
  | ternary => "ternary"
  | range => "range"

/-- The match kind with a tag. -/
def ofTag? (tag : String) : Option MatchKind :=
  [exact, longestPrefix, ternary, range].find? fun kind => kind.tag = tag

/-- The match kind that a tag or its place among the tags gives. -/
def ofTagOrPlace? : Json → Option MatchKind
  | .string tag => ofTag? tag
  | .integer (.ofNat n) => [exact, longestPrefix, ternary, range][n]?
  | _ => none

end MatchKind

namespace MatchValue

/-- The members of a match value. -/
def members : MatchValue → List (String × Json)
  | exact value => [("value", value.toJson)]
  | longestPrefix value length =>
    [("value", value.toJson), ("prefix_len", .ofNat length.toNat)]
  | ternary value mask =>
    [("value", value.toJson), ("mask", mask.toJson)]
  | range low high =>
    [("low", low.toJson), ("high", high.toJson)]

/-- A match value is a record tagged with its kind. -/
def toJson (v : MatchValue) : Json := .object (("type", .string v.kind.tag) :: v.members)

/-- The match value of a kind that a record gives. -/
def ofRecord? : MatchKind → Json → Option MatchValue
  | .exact, j => do
    let [value] ← j.slots? ["value"] | none
    some (exact (← Json.required ByteString.ofJson? value))
  | .longestPrefix, j => do
    let [value, length] ← j.slots? ["value", "prefix_len"] | none
    some (longestPrefix (← Json.required ByteString.ofJson? value)
      (← Json.required Json.uint32? length))
  | .ternary, j => do
    let [value, mask] ← j.slots? ["value", "mask"] | none
    some (ternary (← Json.required ByteString.ofJson? value)
      (← Json.required ByteString.ofJson? mask))
  | .range, j => do
    let [low, high] ← j.slots? ["low", "high"] | none
    some (range (← Json.required ByteString.ofJson? low)
      (← Json.required ByteString.ofJson? high))

/-- The match value that a JSON value is. -/
def ofJson? (j : Json) : Option MatchValue := do
  let (tag, record) ← j.tagged? "type"
  let kind ← MatchKind.ofTag? (← tag.string?)
  ofRecord? kind record

end MatchValue

namespace FieldMatch

/-- A field match is the object of its match value, with the field in front. -/
def toJson (m : FieldMatch) : Json :=
  .object (("field_id", m.field.toJson)
    :: ("type", .string m.value.kind.tag) :: m.value.members)

/-- The field match that an object is; its match kind may also be given by number. -/
def ofJson? : Json → Option FieldMatch
  | .object members => do
    let field ← Json.required FieldId.ofJson? (← Json.slot? members "field_id")
    let (tag, record) ← (Json.object members).tagged? "type"
    let kind ← MatchKind.ofTagOrPlace? tag
    some ⟨field, ← MatchValue.ofRecord? kind record⟩
  | _ => none

end FieldMatch

/-- A match key is the array of its field matches. -/
def MatchKey.toJson (key : MatchKey) : Json := .array (key.fieldMatches.map FieldMatch.toJson)

/-- The match key that an array is; a field may be matched more than once. -/
def MatchKey.ofJson? (j : Json) : Option MatchKey := (j.list? FieldMatch.ofJson?).map mk

/-! ## Actions -/

namespace ActionParam

/-- A parameter is a record of its name and value. -/
def toJson (p : ActionParam) : Json :=
  .object [("id", p.id.toJson), ("value", p.value.toJson)]

/-- The parameter that a record is. -/
def ofJson? (j : Json) : Option ActionParam := do
  let [id, value] ← j.slots? ["id", "value"] | none
  some ⟨← Json.required ParamId.ofJson? id, ← Json.required ByteString.ofJson? value⟩

end ActionParam

namespace Action

/-- An action is a record of its name and the array of its parameters. -/
def toJson (a : Action) : Json :=
  .object [("id", a.id.toJson),
    ("params", .array (a.params.map ActionParam.toJson))]

/-- The action that a record is; one without parameters need not say so. -/
def ofJson? (j : Json) : Option Action := do
  let [id, params] ← j.slots? ["id", "params"] | none
  some ⟨← Json.required ActionId.ofJson? id,
    ← Json.defaulted [] (Json.list? ActionParam.ofJson?) params⟩

end Action

/-! ## Table entries and counter cells -/

namespace TableEntry

/-- A table entry is a record of its parts; a part that it does not have is left out. -/
def toJson (e : TableEntry) : Json :=
  .object ([("table", e.table.toJson), ("match_key", e.matchKey.toJson)]
    ++ Json.given "priority" (fun p => .integer p.toInt) e.priority
    ++ Json.given "action" Action.toJson e.action)

/-- The table entry that a record is. -/
def ofJson? (j : Json) : Option TableEntry := do
  let [table, matchKey, priority, action] ←
    j.slots? ["table", "match_key", "priority", "action"] | none
  some ⟨← Json.required TableId.ofJson? table,
    ← Json.defaulted MatchKey.empty MatchKey.ofJson? matchKey,
    ← Json.optional Json.int32? priority,
    ← Json.optional Action.ofJson? action⟩

end TableEntry

namespace CounterCell

/-- A counter cell is a record of its bank and its place there. -/
def toJson (c : CounterCell) : Json :=
  .object [("counter_id", c.counter.toJson), ("index", .ofNat c.index.toNat)]

/-- The counter cell that a record is. -/
def ofJson? (j : Json) : Option CounterCell := do
  let [counter, index] ← j.slots? ["counter_id", "index"] | none
  some ⟨← Json.required CounterId.ofJson? counter, ← Json.required Json.uint64? index⟩

end CounterCell

namespace DeviceEntity

/-- A device entity is an object whose only key says of what sort it is. -/
def toJson : DeviceEntity → Json
  | tableEntry e => .object [("table_entry", e.toJson)]
  | counterCell c => .object [("counter_cell", c.toJson)]

/-- The device entity that an object with one key is. -/
def ofJson? : Json → Option DeviceEntity
  | .object [(sort, j)] =>
    if sort = "table_entry" then (TableEntry.ofJson? j).map tableEntry
    else if sort = "counter_cell" then (CounterCell.ofJson? j).map counterCell
    else none
  | _ => none

end DeviceEntity

end UserPlane
