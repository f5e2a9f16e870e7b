import UserPlane.Json.Basic

/-! # The shapes of JSON values

How plain values, records and tagged alternatives are laid out as JSON values. A **record** is an
object, whose unknown members are ignored and whose known ones may not be repeated, or an array of
its fields in order, which may end early. Either way **`slots?`** gives a slot for each field, empty
if the field is not there; a slot is then **required**, **optional** or **defaulted**. A **tagged**
record carries a tag that says which fields to expect, as a member or as the first item; it is read
as a whole before its tag is looked at, so all of it has to be readable. -/

namespace UserPlane.Json

/-! ## Plain values -/

/-- The natural number below a bound that a value is. -/
def natBelow? (bound : Nat) : Json → Option Nat
  | integer (.ofNat n) => if n < bound then some n else none
  | _ => none

/-- The number of one byte that a value is. -/
def uint8? (j : Json) : Option UInt8 := (j.natBelow? UInt8.size).map Nat.toUInt8

/-- The number of two bytes that a value is. -/
def uint16? (j : Json) : Option UInt16 := (j.natBelow? UInt16.size).map Nat.toUInt16

/-- The number of four bytes that a value is. -/
def uint32? (j : Json) : Option UInt32 := (j.natBelow? UInt32.size).map Nat.toUInt32

/-- The number of eight bytes that a value is. -/
def uint64? (j : Json) : Option UInt64 := (j.natBelow? UInt64.size).map Nat.toUInt64

/-- The signed number of four bytes that a value is. -/
def int32? : Json → Option Int32
  | integer n =>
    if Int32.minValue.toInt ≤ n ∧ n ≤ Int32.maxValue.toInt then some (Int32.ofInt n) else none
  | _ => none

/-- The truth value that a value is. -/
def bool? : Json → Option Bool
  | bool b => some b
  | _ => none

/-- The string that a value is. -/
def string? : Json → Option String
  | string s => some s
  | _ => none

/-- The items that a value has, each read in one way. -/
def list? {α : Type} (read : Json → Option α) : Json → Option (List α)
  | array items => items.mapM read
  | _ => none

/-- A number as a value. -/
def ofNat (n : Nat) : Json := integer n

/-- Whether null stands for nothing, or the value for something. -/
def nullable? {α : Type} (read : Json → Option α) : Json → Option (Option α)
  | null => some none
  | j => (read j).map some

/-! ## Records -/

/-- The slot of a field among the members of an object; a repeated field has none. -/
def slot? (members : List (String × Json)) (field : String) : Option (Option Json) :=
  match members.filter fun member => member.1 = field with
  | [] => some none
  | [(_, value)] => some (some value)
  | _ => none

/-- The slots of fields that items fill from the first on; too many items fill none. -/
def fill? : List String → List Json → Option (List (Option Json))
  | [], [] => some []
  | [], _ :: _ => none
  | _ :: fields, [] => (fill? fields []).map (none :: ·)
  | _ :: fields, item :: items => (fill? fields items).map (some item :: ·)

/-- The slots of a record's fields, in order. -/
def slots? (fields : List String) : Json → Option (List (Option Json))
  | object members => fields.mapM (slot? members)
  | array items => fill? fields items
  | _ => none

/-- The slots of the fields of a record that takes no unknown members. -/
def closedSlots? (fields : List String) : Json → Option (List (Option Json))
  | object members =>
    if members.all fun member => fields.contains member.1 then fields.mapM (slot? members)
    else none
  | j => slots? fields j

/-- The value of a field that has to be there. -/
def required {α : Type} (read : Json → Option α) : Option Json → Option α
  | some j => read j
  | none => none

/-- The value of a field that may be absent or null. -/
def optional {α : Type} (read : Json → Option α) : Option Json → Option (Option α)
  | some j => nullable? read j
  | none => some none

/-- The value of a field that may be absent, but not null. -/
def defaulted {α : Type} (default : α) (read : Json → Option α) : Option Json → Option α
  | some j => read j
  | none => some default

/-- The members that an optional field is written as: none if it has no value. -/
def given {α : Type} (field : String) (write : α → Json) : Option α → List (String × Json)
  | some a => [(field, write a)]
  | none => []

/-! ## Alternatives -/

/-- The tag of a readable record, and the record without it. -/
def tagged? (tag : String) (j : Json) : Option (Json × Json) :=
  if j.readable then
    match j with
    | object members =>
      match slot? members tag with
      | some (some value) => some (value, object (members.filter fun m => m.1 ≠ tag))
      | _ => none
    | array (value :: items) => some (value, array items)
    | _ => none
  else none

/-- The name that a value gives: a string, or an object whose only key it is and whose value is
null. Where records are read as a whole, the object's value may also be the empty object. -/
def name? (whole : Bool) : Json → Option String
  | string s => some s
  | object [(s, null)] => some s
  | object [(s, object [])] => if whole then some s else none
  | _ => none

end UserPlane.Json
