/-! # JSON values

A **JSON value** as its text gives it: objects keep their members in order, repeated ones included,
and numbers written as integers are told from all others. Some text is well formed and yet denotes
no value — a string with half of a surrogate pair, a number beyond the range of doubles, nesting
without end. It is kept as **`unreadable`**: a reader that skips it does not mind, one that needs it
fails. -/

namespace UserPlane

/-- A JSON value. -/
inductive Json where
  /-- The null value. -/
  | null
  /-- A truth value. -/
  | bool (value : Bool)
  /-- A number written with digits and at most a sign, other than minus zero. -/
  | integer (value : Int)
  /-- Any other number, as it is written. -/
  | fractional (literal : String)
  /-- A string. -/
  | string (value : String)
  /-- An array. -/
  | array (items : List Json)
  /-- An object, whose members come in order and may be repeated. -/
  | object (members : List (String × Json))
  /-- Well-formed text that denotes no value. -/
  | unreadable
deriving Inhabited

namespace Json

mutual

/-- Whether every part of a value can be read. -/
def readable : Json → Bool
  | array items => itemsReadable items
  | object members => membersReadable members
  | unreadable => false
  | null | bool _ | integer _ | fractional _ | string _ => true

/-- Whether every item can be read. -/
def itemsReadable : List Json → Bool
  | [] => true
  | item :: rest => readable item && itemsReadable rest

/-- Whether every member can be read. -/
def membersReadable : List (String × Json) → Bool
  | [] => true
  | (_, value) :: rest => readable value && membersReadable rest

end

end Json

end UserPlane
