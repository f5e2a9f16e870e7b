/-! # Identifiers

Tables, match fields, actions, action parameters and counters are told apart by name. Each sort
of name is a type of its own, so that a field is never looked up as a parameter. Names are ordered
by their characters' code points. -/

namespace UserPlane

/-- The name of a table. -/
structure TableId where
  /-- The name itself. -/
  name : String
deriving DecidableEq, Inhabited

/-- The name of a match field. -/
structure FieldId where
  /-- The name itself. -/
  name : String
deriving DecidableEq, Inhabited

/-- The name of an action. -/
structure ActionId where
  /-- The name itself. -/
  name : String
deriving DecidableEq, Inhabited

/-- The name of an action parameter. -/
structure ParamId where
  /-- The name itself. -/
  name : String
deriving DecidableEq, Inhabited

/-- The name of a counter bank. -/
structure CounterId where
  /-- The name itself. -/
  name : String
deriving DecidableEq, Inhabited

/-- Tables are ordered by name, character by character. -/
instance : Ord TableId := ⟨fun a b => compareOfLessAndEq a.name b.name⟩

end UserPlane
