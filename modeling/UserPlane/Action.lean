import UserPlane.ByteString.Text
import UserPlane.Identifier
import UserPlane.Keyed

/-! # Actions

A table entry applies an **action** to the packets it matches: a named action with named
parameters. An action is drafted step by step (`Action.Draft`); a parameter given twice keeps its
first place and its last value, and a draft without a name is no action. -/

namespace UserPlane

/-- A parameter of an action. -/
structure ActionParam where
  /-- The parameter's name. -/
  id : ParamId
  /-- The parameter's value. -/
  value : ByteString
deriving DecidableEq

/-- An action and its parameters, in order. -/
structure Action where
  /-- The action's name. -/
  id : ActionId
  /-- The action's parameters. -/
  params : List ActionParam
deriving DecidableEq

/-- What an unfinished draft lacks. -/
inductive DraftError where
  /-- A table entry without a table. -/
  | missingTable
  /-- An action without a name. -/
  | missingAction
deriving DecidableEq

/-- What is missing, in words. -/
def DraftError.message : DraftError → String
  | missingTable => "table entry requires a table ID"
  | missingAction => "action requires an action ID"

/-- A parameter, in words. -/
def ActionParam.describe (p : ActionParam) : String := p.id.name ++ "=" ++ p.value.text

namespace Action

/-- The first parameter with a name. -/
def param? (a : Action) (id : ParamId) : Option ActionParam :=
  Keyed.find? ActionParam.id id a.params

/-- **`param?` gives the first parameter with a name**: no parameter before it has that name. -/
theorem param?_eq_some_iff_append {a : Action} {id : ParamId} {p : ActionParam} :
    a.param? id = some p ↔
      p.id = id ∧ ∃ before after, a.params = before ++ p :: after ∧ ∀ b ∈ before, b.id ≠ id :=
  Keyed.find?_eq_some_iff_append ActionParam.id

/-- An action, in words. -/
def describe (a : Action) : String :=
  a.id.name ++ "(" ++ String.intercalate ", " (a.params.map ActionParam.describe) ++ ")"

/-! ## Drafts -/

/-- An action in the making. -/
structure Draft where
  /-- The name, once it is given. -/
  id : Option ActionId := none
  /-- The parameters given so far. -/
  params : List ActionParam := []

/-- One statement about an action in the making. -/
inductive Setting where
  /-- The action has this name. -/
  | id (id : ActionId)
  /-- The action has this parameter. -/
  | param (param : ActionParam)

namespace Draft

/-- The draft after one more statement, which overrides earlier ones on the same subject. -/
def set (d : Draft) : Setting → Draft
  | .id id => { d with id := some id }
  | .param p => { d with params := Keyed.put ActionParam.id p d.params }

/-- The action drafted, if it has a name. -/
def finish (d : Draft) : Except DraftError Action :=
  match d.id with
  | some id => .ok ⟨id, d.params⟩
  | none => .error .missingAction

end Draft

/-- The action that statements one after another describe. -/
def build (settings : List Setting) : Except DraftError Action :=
  (settings.foldl Draft.set {}).finish

end Action

end UserPlane
