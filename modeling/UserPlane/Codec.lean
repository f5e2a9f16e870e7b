import UserPlane.Codec.Decoding
import UserPlane.Codec.Encoding

/-! # Table entries as entities, and back

**`TableEntry.decode`** tells the entity that a table entry programs, and **`Entity.encode`** the
entry that programs an entity. A value without a counterpart is **unsupported**, and is given back
with the cause. **`DeviceEntity.kind?`** tells the kind of entity that a device entity stands for by
the name of its table or counter bank alone, whether or not it has a counterpart. -/

namespace UserPlane

/-- A value without a counterpart, and why it has none. -/
inductive Unsupported where
  /-- A table entry that is no entity. -/
  | entry (entry : TableEntry) (cause : DecodeError)
  /-- An entity that no table entry programs. -/
  | entity (entity : Entity) (cause : EncodeError)
deriving DecidableEq

namespace Unsupported

/-- Why the value has no counterpart, in words. -/
def reason : Unsupported → String
  | entry _ cause => cause.message
  | entity _ cause => cause.message

/-- The value without a counterpart, in words. -/
def describeInput : Unsupported → String
  | entry e _ => e.describe
  | entity e _ => e.describe

/-- The failure, in words. -/
def message (u : Unsupported) : String :=
  "Unsupported UP4 entity: " ++ u.reason ++ ": " ++ u.describeInput

end Unsupported

/-- The entity that a table entry programs. -/
def TableEntry.decode (entry : TableEntry) : Except Unsupported Entity :=
  entry.toEntity.mapError (.entry entry)

/-- The table entry that programs an entity. -/
def Entity.encode (entity : Entity) : Except Unsupported EncodedEntry :=
  entity.toEntry.mapError (.entity entity)

/-! ## Classification -/

/-- The kind of entity that the entries of a table program. -/
def TableEntry.kind? (entry : TableEntry) : Option EntityKind :=
  (Pipeline.tableNamed? entry.table).map Pipeline.Table.kind

/-- Whether a cell is a user-plane counter, as a kind of entity. -/
def CounterCell.kind? (cell : CounterCell) : Option EntityKind :=
  if Pipeline.countsTraffic cell.counter then some .counter else none

/-- The kind of entity that a device entity stands for, if it belongs to the user plane. -/
def DeviceEntity.kind? : DeviceEntity → Option EntityKind
  | .tableEntry entry => entry.kind?
  | .counterCell cell => cell.kind?

end UserPlane
