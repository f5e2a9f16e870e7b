import UserPlane.Prefix
import UserPlane.Entity.Description
import UserPlane.Pipeline.Table
import UserPlane.TableEntry

/-! # Reading the parts of a table entry

Match keys and actions hold byte strings under names. The readers here look a name up and read what
stands there as the number, address, prefix or range that the field or parameter is meant to hold,
or say what is wrong with it. A prefix match is read value first, a range by its low bound first,
and a ternary match, which has to compare every bit, by its mask first. -/

namespace UserPlane

/-- Why a part of a table entry could not be read. -/
inductive FieldError where
  /-- The match key has no match on the field. -/
  | missingField (field : FieldId)
  /-- The field is matched in another way than it is read. -/
  | wrongKind (field : FieldId) (expected actual : MatchKind)
  /-- The action has no such parameter. -/
  | missingParam (param : ParamId)
  /-- The entry has no action. -/
  | missingAction
  /-- The entry has no priority. -/
  | missingPriority
  /-- The bytes under a name do not fit what it is meant to hold. -/
  | invalidValue (name : String) (cause : ByteString.Error)
  /-- A prefix match on more bits than an address has. -/
  | invalidLength (field : FieldId) (length : UInt32)
  /-- A ternary match that does not compare every bit. -/
  | partialMask (field : FieldId) (mask : ByteString)
  /-- A range match that no value satisfies. -/
  | emptyRange (field : FieldId) (range : PortRange)
deriving DecidableEq

/-- What is wrong with a part of an entry, in words. -/
def FieldError.message : FieldError → String
  | missingField field => "missing match field '" ++ field.name ++ "'"
  | wrongKind field expected actual =>
    "match field '" ++ field.name ++ "' is " ++ actual.name ++ ", expected " ++ expected.name
  | missingParam param => "missing action parameter '" ++ param.name ++ "'"
  | missingAction => "table entry has no action"
  | missingPriority => "table entry has no priority"
  | invalidValue name cause => "invalid value for '" ++ name ++ "': " ++ cause.message
  | invalidLength field length =>
    "invalid prefix length " ++ describeWord length ++ " for '" ++ field.name ++ "'"
  | partialMask field mask =>
    "ternary match '" ++ field.name ++ "' has a partial mask " ++ mask.text
  | emptyRange field range =>
    "range match '" ++ field.name ++ "' is empty (" ++ range.describe ++ ")"

/-- A number read from the bytes under a name. -/
def FieldError.naming {α : Type} (name : String) :
    Except ByteString.Error α → Except FieldError α :=
  Except.mapError (invalidValue name)

/-! ## Match fields -/

namespace MatchKey

/-- What a field is compared with. -/
def valueOf (key : MatchKey) (field : FieldId) : Except FieldError MatchValue :=
  match key.find? field with
  | some m => .ok m.value
  | none => .error (.missingField field)

/-- The bytes of an exact match. -/
def exactValue (key : MatchKey) (field : FieldId) : Except FieldError ByteString := do
  match ← key.valueOf field with
  | .exact value => .ok value
  | other => .error (.wrongKind field .exact other.kind)

/-- An exact match on one byte. -/
def byteOf (key : MatchKey) (field : FieldId) : Except FieldError UInt8 := do
  FieldError.naming field.name (← key.exactValue field).toUInt8

/-- An exact match on a word. -/
def wordOf (key : MatchKey) (field : FieldId) : Except FieldError UInt32 := do
  FieldError.naming field.name (← key.exactValue field).toUInt32

/-- An exact match on an address. -/
def addressOf (key : MatchKey) (field : FieldId) : Except FieldError Address := do
  FieldError.naming field.name (← key.exactValue field).toAddress

/-- The prefix of the given number of bits around an address. -/
def prefixAround (field : FieldId) (address : Address) (length : UInt32) :
    Except FieldError Prefix :=
  if length < 256 then
    -- Of a byte, only the values above 32 are refused.
    (Prefix.around address length.toUInt8).mapError fun _ => .invalidLength field length
  else .error (.invalidLength field length)

/-- A longest-prefix match on an address. -/
def prefixOf (key : MatchKey) (field : FieldId) : Except FieldError Prefix := do
  match ← key.valueOf field with
  | .longestPrefix value length =>
    prefixAround field (← FieldError.naming field.name value.toAddress) length
  | other => .error (.wrongKind field .longestPrefix other.kind)

/-- A range match on ports. -/
def portsOf (key : MatchKey) (field : FieldId) : Except FieldError PortRange := do
  match ← key.valueOf field with
  | .range low high =>
    let low ← FieldError.naming field.name low.toUInt16
    let high ← FieldError.naming field.name high.toUInt16
    let range : PortRange := ⟨low, high⟩
    if range.isEmpty then .error (.emptyRange field range) else .ok range
  | other => .error (.wrongKind field .range other.kind)

/-- A ternary match on every bit of one byte. -/
def maskedByteOf (key : MatchKey) (field : FieldId) : Except FieldError UInt8 := do
  match ← key.valueOf field with
  | .ternary value mask =>
    -- A mask is as wide as the field, so it is read like a value of the field.
    if (← FieldError.naming field.name mask.toUInt8) = 0xff then
      FieldError.naming field.name value.toUInt8
    else .error (.partialMask field mask)
  | other => .error (.wrongKind field .ternary other.kind)

end MatchKey

/-! ## Action parameters -/

namespace Action

/-- The bytes of a parameter. -/
def valueOf (a : Action) (param : ParamId) : Except FieldError ByteString :=
  match a.param? param with
  | some p => .ok p.value
  | none => .error (.missingParam param)

/-- A parameter of one byte. -/
def byteOf (a : Action) (param : ParamId) : Except FieldError UInt8 := do
  FieldError.naming param.name (← a.valueOf param).toUInt8

/-- A parameter that is a port. -/
def portOf (a : Action) (param : ParamId) : Except FieldError UInt16 := do
  FieldError.naming param.name (← a.valueOf param).toUInt16

/-- A parameter that is a word. -/
def wordOf (a : Action) (param : ParamId) : Except FieldError UInt32 := do
  FieldError.naming param.name (← a.valueOf param).toUInt32

/-- A parameter that is an address. -/
def addressOf (a : Action) (param : ParamId) : Except FieldError Address := do
  FieldError.naming param.name (← a.valueOf param).toAddress

end Action

/-! ## The entry itself -/

namespace TableEntry

/-- The action that an entry has to have. -/
def requireAction (e : TableEntry) : Except FieldError Action :=
  match e.action with
  | some a => .ok a
  | none => .error .missingAction

/-- The priority that an entry has to have. -/
def requirePriority (e : TableEntry) : Except FieldError Int32 :=
  match e.priority with
  | some p => .ok p
  | none => .error .missingPriority

end TableEntry

end UserPlane
