import UserPlane.Json.Shape
import UserPlane.Proofs.Json.Document

/-! # Shapes that are written and read

A type has a **faithful form** (`Json.Faithful`) if each of its values is written as a printable
value, never as null, that is read as it. Numbers, truth values and whatever a string tells have
one, and so do lists, also with null for what is missing. A record has one if each of its fields is
faithful (`Json.FaithfulSlot`): the fields without a value are left out of its members, and the
slots that are read are the ones that were filled (`Json.slots?_filled`), so no field is taken for
another one or for its default. A tag among the members is found again, and is gone when the record
is read, if no field is named like it (`Json.tagged?_object`). -/

namespace UserPlane.Json

variable {α : Type} {room : Nat}

/-! ## Faithful forms -/

/-- A value, or null for none. -/
def orNull (write : α → Json) : Option α → Json
  | some a => write a
  | none => null

/-- A form that each value can be written in and be read from again. -/
structure Faithful (room : Nat) (write : α → Json) (read : Json → Option α) : Prop where
  /-- What is written for a value can be written down. -/
  printable : ∀ a, Printable room (write a)
  /-- What is written for a value is not null, which stands for nothing. -/
  ne_null : ∀ a, write a ≠ null
  /-- What is written for a value is read as it. -/
  read_write : ∀ a, read (write a) = some a

namespace Faithful

variable {write : α → Json} {read : Json → Option α}

/-- **The document that is written for a value is read as it**, in either layout. -/
theorem readText_write (h : Faithful room write read) (hroom : room ≤ maxDepth) (layout : Layout)
    (a : α) : readText read (Json.write layout (write a)) = .ok a := by
  rw [readText, parse?_write (h.printable a) hroom layout]
  simp only [h.read_write a]

/-- The line that is written for a value is read as it, in either layout. -/
theorem readText_write_line (h : Faithful room write read) (hroom : room ≤ maxDepth)
    (layout : Layout) (a : α) : readText read (Json.write layout (write a) ++ "\n") = .ok a := by
  rw [readText, parse?_write_line (h.printable a) hroom layout]
  simp only [h.read_write a]

/-- A value is read as itself where null would stand for none. -/
theorem nullable?_write (h : Faithful room write read) (a : α) :
    nullable? read (write a) = some (some a) := by
  -- a value written as null would be taken for none at all
  have hnull : nullable? read (write a) = (read (write a)).map some := by
    rw [nullable?]
    exact h.ne_null a
  rw [hnull, h.read_write, Option.map_some]

/-! ### Plain values -/

section Plain

variable (room)

/-- A number that is below a bound of at most 64 bits. -/
theorem natBelow {bound : Nat} {toNat : α → Nat} {ofNat : Nat → α} (hbound : bound ≤ UInt64.size)
    (hlt : ∀ a, toNat a < bound) (hofNat : ∀ a, ofNat (toNat a) = a) :
    Faithful room (fun a => Json.ofNat (toNat a)) fun j => (j.natBelow? bound).map ofNat where
  printable := by
    intro a
    exact .integer room (Nat.lt_of_lt_of_le (hlt a) hbound)
  ne_null := by
    rintro a ⟨⟩
  read_write := by
    intro a
    have hread : (Json.ofNat (toNat a)).natBelow? bound = some (toNat a) := if_pos (hlt a)
    rw [hread, Option.map_some, hofNat]

/-- A number of one byte. -/
theorem uint8 : Faithful room (fun n : UInt8 => Json.ofNat n.toNat) uint8? :=
  natBelow room (by decide) UInt8.toNat_lt_size fun _ => UInt8.ofNat_toNat

/-- A number of two bytes. -/
theorem uint16 : Faithful room (fun n : UInt16 => Json.ofNat n.toNat) uint16? :=
  natBelow room (by decide) UInt16.toNat_lt_size fun _ => UInt16.ofNat_toNat

/-- A number of four bytes. -/
theorem uint32 : Faithful room (fun n : UInt32 => Json.ofNat n.toNat) uint32? :=
  natBelow room (by decide) UInt32.toNat_lt_size fun _ => UInt32.ofNat_toNat

/-- A number of eight bytes. -/
theorem uint64 : Faithful room (fun n : UInt64 => Json.ofNat n.toNat) uint64? :=
  natBelow room (Nat.le_refl _) UInt64.toNat_lt_size fun _ => UInt64.ofNat_toNat

/-- A signed number of four bytes. -/
theorem int32 : Faithful room (fun n : Int32 => integer n.toInt) int32? where
  printable := by
    intro n
    have hlow := n.le_toInt
    have hhigh := n.toInt_lt
    have hsize : 2 ^ 31 < UInt64.size := by decide
    exact .integer room (by omega)
  ne_null := by
    rintro n ⟨⟩
  read_write := by
    intro n
    rw [int32?, if_pos ⟨n.minValue_le_toInt, n.toInt_le⟩, Int32.ofInt_toInt]

/-- A truth value. -/
theorem bool : Faithful room Json.bool bool? where
  printable := .bool room
  ne_null := by
    rintro b ⟨⟩
  read_write := fun _ => rfl

/-- Whatever a string tells. -/
theorem string {text : α → String} (hread : ∀ a, read (.string (text a)) = some a) :
    Faithful room (fun a => .string (text a)) read where
  printable := fun a => .string room (text a)
  ne_null := by
    rintro a ⟨⟩
  read_write := hread

/-- What has a text that denotes it. -/
theorem text {ε : Type} {text : α → String} {ofText : String → Except ε α}
    (hdenotes : ∀ a, ofText (text a) = .ok a) :
    Faithful room (fun a => .string (text a)) (fun j => do (ofText (← j.string?)).toOption) := by
  refine string room ?_
  intro a
  show (ofText (text a)).toOption = some a
  rw [hdenotes]
  rfl

end Plain

/-- A list, as the array of its items. -/
theorem array (h : Faithful room write read) :
    Faithful (room + 1) (fun as => .array (as.map write)) (list? read) where
  printable := by
    intro as
    refine .array ?_
    intro item hitem
    obtain ⟨a, -, rfl⟩ := List.mem_map.mp hitem
    exact h.printable a
  ne_null := by
    rintro as ⟨⟩
  read_write := by
    intro as
    rw [list?, mapM_map_eq_some (h := id) fun a _ => h.read_write a, List.map_id]

/-- A list of values of which some are missing, as the array of its items. -/
theorem arrayOrNull (h : Faithful room write read) :
    Faithful (room + 1) (fun as => .array (as.map (orNull write))) (list? (nullable? read)) where
  printable := by
    intro as
    refine .array ?_
    intro item hitem
    obtain ⟨a, -, rfl⟩ := List.mem_map.mp hitem
    cases a with
    | none => exact .null room
    | some a => exact h.printable a
  ne_null := by
    rintro as ⟨⟩
  read_write := by
    intro as
    have hitem : ∀ a ∈ as, nullable? read (orNull write a) = some (id a) := by
      intro a _
      cases a with
      | none => rfl
      | some a => exact h.nullable?_write a
    rw [list?, mapM_map_eq_some hitem, List.map_id]

end Faithful

/-! ## Fields -/

/-- A way of filling a field's slot that each value can be read from again. -/
structure FaithfulSlot (room : Nat) (fill : α → Option Json) (read : Option Json → Option α) :
    Prop where
  /-- What fills the slot can be written down. -/
  printable : ∀ a, ∀ j ∈ fill a, Printable room j
  /-- The slot is read as the value. -/
  read_fill : ∀ a, read (fill a) = some a

namespace Faithful

variable {write : α → Json} {read : Json → Option α}

/-- A field that is always given, and has to be. -/
theorem required (h : Faithful room write read) :
    FaithfulSlot room (fun a => some (write a)) (required read) where
  printable := by
    rintro a _ ⟨⟩
    exact h.printable a
  read_fill := h.read_write

/-- A field that is always given, though there is a default for it. -/
theorem defaulted (default : α) (h : Faithful room write read) :
    FaithfulSlot room (fun a => some (write a)) (defaulted default read) where
  printable := h.required.printable
  read_fill := h.read_write

/-- A field that is given if it has a value. -/
theorem optional (h : Faithful room write read) :
    FaithfulSlot room (fun o : Option α => o.map write) (optional read) where
  printable := by
    intro o j hj
    obtain ⟨a, -, rfl⟩ := Option.map_eq_some_iff.mp hj
    exact h.printable a
  read_fill := by
    intro o
    cases o with
    | none => rfl
    | some a => exact h.nullable?_write a

end Faithful

/-! ## Slots of an object -/

section Slots

variable {members : List (String × Json)} {field : String}

/-- A field that is not among the members has no member. -/
theorem filter_eq_nil_of_not_mem (h : field ∉ members.map Prod.fst) :
    members.filter (fun member => member.1 = field) = [] := by
  rw [List.filter_eq_nil_iff]
  intro member hmember heq
  exact h (List.mem_map.mpr ⟨member, hmember, of_decide_eq_true heq⟩)

/-- A field that is not among the members has an empty slot. -/
theorem slot?_of_not_mem (h : field ∉ members.map Prod.fst) : slot? members field = some none := by
  rw [slot?, filter_eq_nil_of_not_mem h]

/-- A member that no other one repeats fills its slot. -/
theorem slot?_cons_self (h : field ∉ members.map Prod.fst) (value : Json) :
    slot? ((field, value) :: members) field = some (some value) := by
  have hself : decide ((field, value).1 = field) = true := decide_eq_true rfl
  rw [slot?, List.filter_cons, hself, filter_eq_nil_of_not_mem h]
  rfl

/-- A member does not fill the slot of another field. -/
theorem slot?_cons_of_ne {key : String} (h : key ≠ field) (value : Json) :
    slot? ((key, value) :: members) field = slot? members field := by
  have hother : decide ((key, value).1 = field) = false := decide_eq_false h
  rw [slot?, List.filter_cons, hother]
  rfl

/-- A member that is no field of a record does not change its slots. -/
theorem slots?_cons_of_not_mem {key : String} {fields : List String} (h : key ∉ fields)
    (value : Json) :
    slots? fields (object ((key, value) :: members)) = slots? fields (object members) := by
  rw [slots?, slots?]
  induction fields with
  | nil => rfl
  | cons field fields ih =>
    rw [List.mem_cons, not_or] at h
    obtain ⟨hne, hlater⟩ := h
    rw [List.mapM_cons, List.mapM_cons, slot?_cons_of_ne hne, ih hlater]

end Slots

/-! ## Records -/

/-- The members of a record whose fields have these slots; what is empty is left out. -/
def filled (entries : List (String × Option Json)) : List (String × Json) :=
  entries.filterMap fun (field, slot) => slot.map fun j => (field, j)

/-- A member of a record is what fills a slot. -/
theorem mem_filled {entries : List (String × Option Json)} {member : String × Json} :
    member ∈ filled entries ↔ (member.1, some member.2) ∈ entries := by
  rw [filled, List.mem_filterMap]
  constructor
  · rintro ⟨⟨field, slot⟩, hentry, hslot⟩
    obtain ⟨j, rfl, rfl⟩ := Option.map_eq_some_iff.mp hslot
    exact hentry
  · intro hentry
    exact ⟨_, hentry, rfl⟩

/-- What is not the field of an entry is no key of a member. -/
theorem not_mem_filled {entries : List (String × Option Json)} {field : String}
    (h : field ∉ entries.map Prod.fst) : field ∉ (filled entries).map Prod.fst := by
  intro hfield
  obtain ⟨member, hmember, rfl⟩ := List.mem_map.mp hfield
  exact h (List.mem_map.mpr ⟨_, mem_filled.mp hmember, rfl⟩)

/-- The slot of a field is what it was filled with. -/
theorem slot?_filled {entries : List (String × Option Json)}
    (hdistinct : (entries.map Prod.fst).Nodup) :
    ∀ entry ∈ entries, slot? (filled entries) entry.1 = some entry.2 := by
  induction entries with
  | nil => nofun
  | cons first entries ih =>
    obtain ⟨field, slot⟩ := first
    obtain ⟨hfirst, hlater⟩ := List.nodup_cons.mp hdistinct
    have habsent : field ∉ (filled entries).map Prod.fst := not_mem_filled hfirst
    -- no later field has the name of the first one: only the first one can fill its own slot, and
    -- it fills no other one
    refine List.forall_mem_cons.mpr ⟨?_, ?_⟩
    · cases slot with
      | none => exact slot?_of_not_mem habsent
      | some j => exact slot?_cons_self habsent j
    · intro entry hentry
      have hne : field ≠ entry.1 := by
        rintro rfl
        exact hfirst (List.mem_map.mpr ⟨entry, hentry, rfl⟩)
      cases slot with
      | none => exact ih hlater entry hentry
      | some j => exact (slot?_cons_of_ne hne j).trans (ih hlater entry hentry)

/-- **The slots of a record are what its fields were filled with.** -/
theorem slots?_filled {fields : List String} {slots : List (Option Json)}
    (hdistinct : fields.Nodup) (hlength : fields.length = slots.length) :
    slots? fields (object (filled (fields.zip slots))) = some slots := by
  -- nothing is cut off, as there are as many slots as fields
  have hfields : (fields.zip slots).map Prod.fst = fields :=
    List.map_fst_zip (Nat.le_of_eq hlength)
  have hslots : (fields.zip slots).map Prod.snd = slots :=
    List.map_snd_zip (Nat.le_of_eq hlength.symm)
  have hfilled := mapM_map_eq_some (slot?_filled (hfields.symm ▸ hdistinct))
  rw [hfields, hslots] at hfilled
  exact hfilled

/-- A record that takes no unknown members is read like any other one, since it has none. -/
theorem closedSlots?_filled (fields : List String) (slots : List (Option Json)) :
    closedSlots? fields (object (filled (fields.zip slots))) =
      slots? fields (object (filled (fields.zip slots))) := by
  have hall : ((filled (fields.zip slots)).all fun member => fields.contains member.1) = true := by
    rw [List.all_eq_true]
    intro member hmember
    rw [List.contains_iff_mem]
    exact (List.of_mem_zip (mem_filled.mp hmember)).1
  rw [closedSlots?, if_pos hall]
  rfl

/-- Members that a record of these fields can be written as and be read from again. -/
structure FaithfulMembers (room : Nat) (fields : List String) (members : α → List (String × Json))
    (read : Json → Option α) : Prop where
  /-- Each member can be written down. -/
  printable : ∀ a, ∀ member ∈ members a, Printable room member.2
  /-- Each member is a field. -/
  mem_fields : ∀ a, ∀ member ∈ members a, member.1 ∈ fields
  /-- The object that the members make up is read as the value. -/
  read_object : ∀ a, read (object (members a)) = some a

namespace FaithfulMembers

variable {members : α → List (String × Json)} {read : Json → Option α}

/-- A record is faithful if it is read back from slots that can be written down. -/
theorem of_slots (fields : List String) (slots : α → List (Option Json)) (hdistinct : fields.Nodup)
    (hlength : ∀ a, fields.length = (slots a).length)
    (hmembers : ∀ a, members a = filled (fields.zip (slots a)))
    (hprintable : ∀ a, ∀ slot ∈ slots a, ∀ j ∈ slot, Printable room j)
    (hread : ∀ a, slots? fields (object (members a)) = some (slots a) →
      read (object (members a)) = some a) : FaithfulMembers room fields members read where
  printable := by
    intro a member hmember
    rw [hmembers, mem_filled] at hmember
    exact hprintable a _ (List.of_mem_zip hmember).2 member.2 rfl
  mem_fields := by
    intro a member hmember
    rw [hmembers, mem_filled] at hmember
    exact (List.of_mem_zip hmember).1
  read_object := by
    intro a
    refine hread a ?_
    rw [hmembers, slots?_filled hdistinct (hlength a)]

/-- The object of faithful members is a faithful form. -/
theorem faithful {fields : List String} (h : FaithfulMembers room fields members read) :
    Faithful (room + 1) (fun a => object (members a)) read where
  printable := fun a => .object (h.printable a)
  ne_null := by
    rintro a ⟨⟩
  read_write := h.read_object

end FaithfulMembers

/-! ## Tags -/

/-- Members that can be written down beside a tag. -/
structure Untagged (room : Nat) (tag : String) (members : List (String × Json)) : Prop where
  /-- Each member can be written down. -/
  printable : ∀ member ∈ members, Printable room member.2
  /-- None is the tag. -/
  not_mem : tag ∉ members.map Prod.fst

namespace Untagged

variable {tag : String} {members : List (String × Json)}

/-- An empty list of members can be written down beside a tag. -/
theorem nil : Untagged room tag [] := ⟨nofun, nofun⟩

/-- Members of a record that has no field named like the tag. -/
theorem of_faithfulMembers {fields : List String} {members : α → List (String × Json)}
    {read : Json → Option α} (h : FaithfulMembers room fields members read) (htag : tag ∉ fields)
    (a : α) : Untagged room tag (members a) where
  printable := h.printable a
  not_mem := by
    intro hmem
    obtain ⟨member, hmember, rfl⟩ := List.mem_map.mp hmem
    exact htag (h.mem_fields a member hmember)

/-- Taking a tag away takes away none of the members beside it. -/
theorem filter_eq_self (h : Untagged room tag members) :
    members.filter (fun member => member.1 ≠ tag) = members := by
  rw [List.filter_eq_self]
  intro member hmember
  rw [decide_eq_true_eq]
  rintro rfl
  exact h.not_mem (List.mem_map.mpr ⟨member, hmember, rfl⟩)

end Untagged

section Tagged

variable {tag : String} {before after : List (String × Json)} {value : Json}

/-- What is written with a tag can be written down. -/
theorem printable_tagged (hbefore : Untagged room tag before) (hvalue : Printable room value)
    (hafter : Untagged room tag after) :
    Printable (room + 1) (object (before ++ (tag, value) :: after)) := by
  refine .object (List.forall_mem_append.mpr ⟨hbefore.printable, ?_⟩)
  exact List.forall_mem_cons.mpr ⟨hvalue, hafter.printable⟩

/-- **A tag is found among the members of a record**, and the record is what is left. -/
theorem tagged?_object (hbefore : Untagged room tag before) (hvalue : Printable room value)
    (hafter : Untagged room tag after) :
    tagged? tag (object (before ++ (tag, value) :: after)) =
      some (value, object (before ++ after)) := by
  have hself : decide ((tag, value).1 = tag) = true := decide_eq_true rfl
  have hnotself : decide ((tag, value).1 ≠ tag) = false := decide_eq_false (not_not_intro rfl)
  have hslot : slot? (before ++ (tag, value) :: after) tag = some (some value) := by
    rw [slot?, List.filter_append, List.filter_cons, hself,
      filter_eq_nil_of_not_mem hbefore.not_mem, filter_eq_nil_of_not_mem hafter.not_mem]
    rfl
  have hrest : (before ++ (tag, value) :: after).filter (fun member => member.1 ≠ tag) =
      before ++ after := by
    rw [List.filter_append, List.filter_cons, hnotself, hbefore.filter_eq_self,
      hafter.filter_eq_self]
    rfl
  rw [tagged?, if_pos (printable_tagged hbefore hvalue hafter).readable]
  simp only [hslot, hrest]

end Tagged

end UserPlane.Json
