import UserPlane.Entity.Draft
import UserPlane.Proofs.Overriding
import Mathlib.Data.List.Find

/-! # Forms that statements fill in

A **form** tells how entities of a kind are drafted: which fields there are, which of them each
statement gives a value, which must be given one, and what stands in the others otherwise. Of the
values that a field is given the last one counts (`Form.last`). A form **settles** what comes of its
contents (`Form.Settles`): the first required field that is not filled in is reported; if all are,
a range of ports that holds none is refused; and otherwise there is the one entity with these
contents. Nothing else can come of them (`Form.Settles.unique`).

A way to build entities **follows** a form (`Form.Follows`) if this is what it makes of any
statements in any order. So does every draft that holds its fields as the form has them, takes each
statement as the form does, and is finished as the form settles (`Form.follows_of_settles`). -/

namespace UserPlane

/-- A form to draft entities on, by statements. -/
structure Form (σ α : Type) where
  /-- The kind of the entities. -/
  kind : EntityKind
  /-- The fields. -/
  Field : Type
  /-- What can stand in a field. -/
  Value : Field → Type
  /-- The value that a statement gives a field, if it is about that field. -/
  gives : σ → (f : Field) → Option (Value f)
  /-- The fields that must be given a value, with their names, in the order in which an entity has
  them. -/
  required : List (Field × String)
  /-- What stands in a field that is given no value. -/
  usual : (f : Field) → Option (Value f)
  /-- The range of ports among the contents of the fields, in a kind that has one. -/
  ports? : ((f : Field) → Option (Value f)) → Option PortRange
  /-- What stands in the fields of an entity. -/
  fields : α → (f : Field) → Option (Value f)
  /-- A required field is empty until it is given a value. -/
  usual_required : ∀ p ∈ required, usual p.1 = none
  /-- There is no range of ports until one is given. -/
  ports?_usual : ∀ content, ports? (fun f => (content f).or (usual f)) = ports? content
  /-- An entity is told by its fields. -/
  fields_injective : Function.Injective fields

namespace Form

variable {σ α : Type} (form : Form σ α)

/-- What stands in the fields of a form. -/
abbrev Content : Type := (f : form.Field) → Option (form.Value f)

/-- The name of the first required field that is empty. -/
def firstUnset? (content : form.Content) : Option String :=
  (form.required.find? fun p => (content p.1).isNone).map Prod.snd

/-- The values that the fields were given last. -/
def last (statements : List σ) : form.Content :=
  fun f => lastSaid (fun s => form.gives s f) statements

/-- What stands in the fields after some statements. -/
def filled (statements : List σ) : form.Content :=
  fun f => (form.last statements f).or (form.usual f)

/-- A required field is filled in exactly if it was given a value. -/
theorem firstUnset?_filled (statements : List σ) :
    form.firstUnset? (form.filled statements) = form.firstUnset? (form.last statements) := by
  have hsame : ∀ p ∈ form.required,
      (form.filled statements p.1).isNone = (form.last statements p.1).isNone := by
    intro p hp
    rw [filled, form.usual_required p hp, Option.or_none]
  rw [firstUnset?, firstUnset?, List.find?_congr hsame]

/-- There is a range of ports exactly if one was given. -/
theorem ports?_filled (statements : List σ) :
    form.ports? (form.filled statements) = form.ports? (form.last statements) :=
  form.ports?_usual _

/-! ## What comes of a form -/

/-- What comes of the contents of a form. -/
inductive Settles (content : form.Content) : Except EntityError α → Prop where
  /-- The first required field that is empty is reported. -/
  | missing {name : String} (h : form.firstUnset? content = some name) :
    Settles content (.error (.missingField form.kind name))
  /-- A range without ports is refused. -/
  | emptyRange {r : PortRange} (hset : form.firstUnset? content = none)
    (hports : form.ports? content = some r) (hempty : r.high < r.low) :
    Settles content (.error (.invalidPortRange r))
  /-- There is an entity. -/
  | complete {a : α} (hset : form.firstUnset? content = none)
    (hordered : ∀ r, form.ports? content = some r → r.low ≤ r.high)
    (hfields : form.fields a = content) : Settles content (.ok a)

section Settles

variable {form} {content : form.Content} {x y : Except EntityError α} {name : String}
  {r : PortRange} {a : α}

/-- One thing comes of the contents of a form. -/
theorem Settles.unique (h : form.Settles content x) (h' : form.Settles content y) : x = y := by
  cases h with
  | missing h =>
    cases h' with
    | missing h' => rw [Option.some.inj (h.symm.trans h')]
    | emptyRange hset => cases h.symm.trans hset
    | complete hset => cases h.symm.trans hset
  | emptyRange hset hports hempty =>
    cases h' with
    | missing h' => cases h'.symm.trans hset
    | emptyRange _ hports' => rw [Option.some.inj (hports.symm.trans hports')]
    | complete _ hordered => exact absurd hempty (UInt16.not_lt.mpr (hordered _ hports))
  | complete hset hordered hfields =>
    cases h' with
    | missing h' => cases h'.symm.trans hset
    | emptyRange _ hports hempty => exact absurd hempty (UInt16.not_lt.mpr (hordered _ hports))
    | complete _ _ hfields' => rw [form.fields_injective (hfields.trans hfields'.symm)]

/-- What comes of the contents is what they settle. -/
theorem Settles.eq_iff (h : form.Settles content x) : x = y ↔ form.Settles content y := by
  constructor
  · rintro rfl
    exact h
  · exact h.unique

/-- A field is reported exactly if it is the first required one that is empty. -/
theorem settles_missing_iff :
    form.Settles content (.error (.missingField form.kind name)) ↔
      form.firstUnset? content = some name := by
  constructor
  · intro h
    cases h with
    | missing h => exact h
  · exact .missing

/-- A range is refused exactly if no required field is empty and the range is. -/
theorem settles_emptyRange_iff :
    form.Settles content (.error (.invalidPortRange r)) ↔
      form.firstUnset? content = none ∧ form.ports? content = some r ∧ r.high < r.low := by
  constructor
  · intro h
    cases h with
    | emptyRange hset hports hempty => exact ⟨hset, hports, hempty⟩
  · rintro ⟨hset, hports, hempty⟩
    exact .emptyRange hset hports hempty

/-- If there is an entity, it has the contents in its fields. -/
theorem Settles.fields_eq (h : form.Settles content (.ok a)) : form.fields a = content := by
  cases h with
  | complete _ _ hfields => exact hfields

/-- There is an entity exactly if no required field is empty, nor the range of ports. -/
theorem Settles.exists_eq_ok_iff (h : form.Settles content x) :
    (∃ a, x = .ok a) ↔ form.firstUnset? content = none ∧
      ∀ r, form.ports? content = some r → r.low ≤ r.high := by
  constructor
  · rintro ⟨a, rfl⟩
    cases h with
    | complete hset hordered _ => exact ⟨hset, hordered⟩
  · rintro ⟨hset, hordered⟩
    cases h with
    | missing hunset => cases hunset.symm.trans hset
    | emptyRange _ hports hempty => exact absurd hempty (UInt16.not_lt.mpr (hordered _ hports))
    | @complete a _ _ _ => exact ⟨a, rfl⟩

end Settles

/-! ## Building by a form -/

/-- **A way to build entities that follows a form**, whatever the statements, their order and their
number. -/
structure Follows (build : List σ → Except EntityError α) : Prop where
  /-- Of the values that a field was given only the last one matters. -/
  eq_of_last_eq : ∀ {statements others}, form.last statements = form.last others →
    build statements = build others
  /-- The first required field that was given no value is reported, if there is one. -/
  missing_iff : ∀ statements name,
    build statements = .error (.missingField form.kind name) ↔
      form.firstUnset? (form.last statements) = some name
  /-- A range of ports is refused exactly if every required field was given a value, and it is the
  last range and holds no port. -/
  emptyRange_iff : ∀ statements r,
    build statements = .error (.invalidPortRange r) ↔
      form.firstUnset? (form.last statements) = none ∧
      form.ports? (form.last statements) = some r ∧ r.high < r.low
  /-- An entity is built exactly if every required field was given a value, and the last range of
  ports, if there is one, holds a port. -/
  exists_eq_ok_iff : ∀ statements,
    (∃ a, build statements = .ok a) ↔
      form.firstUnset? (form.last statements) = none ∧
      ∀ r, form.ports? (form.last statements) = some r → r.low ≤ r.high
  /-- In the fields of an entity that is built stands what they were given last, or what usually
  does. -/
  fields_eq : ∀ {statements a}, build statements = .ok a →
    ∀ f, form.fields a f = (form.last statements f).or (form.usual f)

variable {form}

/-- What is built of statements follows the form if it is what their last values settle. -/
theorem follows_of_settles_filled {build : List σ → Except EntityError α}
    (h : ∀ statements, form.Settles (form.filled statements) (build statements)) :
    form.Follows build where
  eq_of_last_eq := by
    intro statements others hlast
    have hfilled : form.filled statements = form.filled others := by
      funext f
      rw [filled, filled, hlast]
    have hothers := h others
    rw [← hfilled] at hothers
    exact (h statements).unique hothers
  missing_iff statements name := by
    rw [(h statements).eq_iff, settles_missing_iff, firstUnset?_filled]
  emptyRange_iff statements r := by
    rw [(h statements).eq_iff, settles_emptyRange_iff, firstUnset?_filled, ports?_filled]
  exists_eq_ok_iff statements := by
    rw [(h statements).exists_eq_ok_iff, firstUnset?_filled, ports?_filled]
  fields_eq := by
    intro statements a hbuild f
    have hsettles := (h statements).eq_iff.mp hbuild
    exact congrFun hsettles.fields_eq f

/-- **A draft follows a form** if it holds at first what usually stands in the fields, takes each
statement as the form does, and is finished as the form settles. -/
theorem follows_of_settles {δ : Type} {start : δ} {set : δ → σ → δ}
    {finish : δ → Except EntityError α} (held : δ → form.Content)
    (hstart : ∀ f, held start f = form.usual f)
    (hset : ∀ d s f, held (set d s) f = (form.gives s f).or (held d f))
    (hfinish : ∀ d, form.Settles (held d) (finish d)) :
    form.Follows fun statements => finish (statements.foldl set start) := by
  refine follows_of_settles_filled fun statements => ?_
  have hheld : held (statements.foldl set start) = form.filled statements := by
    funext f
    -- each field is a subject of its own, on which the last statement counts
    have hlast := foldl_eq_lastSaid_or (fun d => held d f) (fun d s => hset d s f) start statements
    rw [hstart] at hlast
    exact hlast
  rw [← hheld]
  exact hfinish _

end Form

end UserPlane
