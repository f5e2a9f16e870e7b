import UserPlane.ByteString.Text
import UserPlane.Identifier
import UserPlane.Keyed

/-! # Match keys

A table entry matches packets by a **match key**: a list of **field matches**, each of which
compares one field in one of four ways, its **match kind**. Adding a field match to a key replaces
the match on the same field if there is one; so a key that is made by adding (`MatchKey.ofMatches`)
matches no field twice. A key that comes from elsewhere may, and then the first match on a field is
the one that a look-up finds. -/

namespace UserPlane

/-- How a field is compared. -/
inductive MatchKind where
  /-- The field is the value. -/
  | exact
  /-- The field begins with the first bits of the value. -/
  | longestPrefix
  /-- The field agrees with the value on the bits of a mask. -/
  | ternary
  /-- The field lies between two bounds. -/
  | range
deriving DecidableEq

/-- What a field is compared with, for each way of comparing. -/
inductive MatchValue where
  /-- The value itself. -/
  | exact (value : ByteString)
  /-- The value, and how many of its bits count. -/
  | longestPrefix (value : ByteString) (length : UInt32)
  /-- The value, and which of its bits count. -/
  | ternary (value mask : ByteString)
  /-- The two bounds, both of which match. -/
  | range (low high : ByteString)
deriving DecidableEq

/-- A match on one field. -/
structure FieldMatch where
  /-- The field compared. -/
  field : FieldId
  /-- What the field is compared with. -/
  value : MatchValue
deriving DecidableEq

/-- The field matches of a table entry, in order. -/
structure MatchKey where
  /-- The matches themselves. -/
  fieldMatches : List FieldMatch
deriving DecidableEq

namespace MatchKind

/-- The name of a match kind. -/
def name : MatchKind → String
  | exact => "EXACT"
  | longestPrefix => "LPM"
  | ternary => "TERNARY"
  | range => "RANGE"

end MatchKind

namespace MatchValue

/-- The way in which a value is compared. -/
def kind : MatchValue → MatchKind
  | exact _ => .exact
  | longestPrefix _ _ => .longestPrefix
  | ternary _ _ => .ternary
  | range _ _ => .range

/-- A match value, in words. -/
def describe : MatchValue → String
  | exact value => value.text
  | longestPrefix value length => value.text ++ "/" ++ Decimal.text length.toNat
  | ternary value mask => value.text ++ "&&&" ++ mask.text
  | range low high => low.text ++ ".." ++ high.text

end MatchValue

namespace FieldMatch

/-- The way in which the field is compared. -/
def kind (m : FieldMatch) : MatchKind := m.value.kind

/-- A field match, in words. -/
def describe (m : FieldMatch) : String := m.field.name ++ "=" ++ m.value.describe

end FieldMatch

namespace MatchKey

/-- The key that matches every packet. -/
def empty : MatchKey := ⟨[]⟩

/-- The number of field matches. -/
def length (key : MatchKey) : Nat := key.fieldMatches.length

/-- Whether the key has no field match. -/
def isEmpty (key : MatchKey) : Bool := key.fieldMatches.isEmpty

/-- The first match on a field. -/
def find? (key : MatchKey) (field : FieldId) : Option FieldMatch :=
  Keyed.find? FieldMatch.field field key.fieldMatches

/-- Whether the key matches on a field. -/
def contains (key : MatchKey) (field : FieldId) : Bool := (key.find? field).isSome

/-- The key with a match in the place of the one on the same field, or at the end. -/
def insert (key : MatchKey) (m : FieldMatch) : MatchKey :=
  ⟨Keyed.put FieldMatch.field m key.fieldMatches⟩

/-- The key that results from adding matches one after another. -/
def ofMatches (ms : List FieldMatch) : MatchKey := ms.foldl insert empty

/-- A match key, in words. -/
def describe (key : MatchKey) : String :=
  "\x7b" ++ String.intercalate ", " (key.fieldMatches.map FieldMatch.describe) ++ "\x7d"

@[simp] theorem fieldMatches_insert (key : MatchKey) (m : FieldMatch) :
    (key.insert m).fieldMatches = Keyed.put FieldMatch.field m key.fieldMatches := rfl

/-- **`find?` gives the first match on a field**: no match before it is on that field. -/
theorem find?_eq_some_iff_append {key : MatchKey} {field : FieldId} {m : FieldMatch} :
    key.find? field = some m ↔
      m.field = field ∧ ∃ before after,
        key.fieldMatches = before ++ m :: after ∧ ∀ b ∈ before, b.field ≠ field :=
  Keyed.find?_eq_some_iff_append FieldMatch.field

/-- The match just added is found under its field. -/
@[simp] theorem find?_insert_self (key : MatchKey) (m : FieldMatch) :
    (key.insert m).find? m.field = some m := by
  simp [find?]

/-- Adding a match changes what is found under no other field. -/
theorem find?_insert_of_ne {m : FieldMatch} {field : FieldId} (h : field ≠ m.field)
    (key : MatchKey) : (key.insert m).find? field = key.find? field :=
  Keyed.find?_put_of_ne FieldMatch.field h key.fieldMatches

end MatchKey

end UserPlane
