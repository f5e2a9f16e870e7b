import UserPlane.Json.Reader
import UserPlane.Json.Writer
import UserPlane.Proofs.Json.Number
import UserPlane.Proofs.Json.Text

/-! # Documents that are written and read

A value is **printable** in some room (`Json.Printable`) if all of it can be written down: no part
is unreadable or a fraction, its integers have at most 64 bits, and containers are nested no deeper
than there is room. Both layouts write such a value so that the scanner takes just its text and
gives the value back, whatever follows it (`Json.Scans`): this goes from the items of a container to
the container (`Json.Scans.array`, `Json.Scans.object`), since an item is followed by a comma, a
blank or a bracket, none of which goes on with it. So **a document that is written for a printable
value denotes it** (`Json.parse?_write`). -/

namespace UserPlane.Json

/-! ## Printable values -/

/-- A value that can be written down, with containers nested no deeper than there is room. -/
inductive Printable : (room : Nat) → Json → Prop where
  | null (room : Nat) : Printable room null
  | bool (room : Nat) (b : Bool) : Printable room (bool b)
  /-- An integer of at most 64 bits and a sign. -/
  | integer (room : Nat) {n : Int} (hn : n.natAbs < UInt64.size) : Printable room (integer n)
  | string (room : Nat) (s : String) : Printable room (string s)
  /-- An array takes up room, and its items share what is left. -/
  | array {room : Nat} {items : List Json} (h : ∀ item ∈ items, Printable room item) :
    Printable (room + 1) (array items)
  /-- An object takes up room, and its members share what is left. -/
  | object {room : Nat} {members : List (String × Json)}
      (h : ∀ member ∈ members, Printable room member.2) : Printable (room + 1) (object members)

namespace Printable

variable {room : Nat} {j : Json}

/-- Items that are readable make a readable array. -/
theorem itemsReadable_of_forall {items : List Json} (h : ∀ item ∈ items, item.readable = true) :
    itemsReadable items = true := by
  induction items with
  | nil => rfl
  | cons item items ih =>
    obtain ⟨hitem, hitems⟩ := List.forall_mem_cons.mp h
    rw [itemsReadable, hitem, ih hitems, Bool.and_true]

/-- Members that are readable make a readable object. -/
theorem membersReadable_of_forall {members : List (String × Json)}
    (h : ∀ member ∈ members, member.2.readable = true) : membersReadable members = true := by
  induction members with
  | nil => rfl
  | cons member members ih =>
    obtain ⟨hmember, hmembers⟩ := List.forall_mem_cons.mp h
    rw [membersReadable, hmember, ih hmembers, Bool.and_true]

/-- What can be written can be read. -/
theorem readable (h : Printable room j) : j.readable = true := by
  induction h with
  | null => rfl
  | bool => rfl
  | integer => rfl
  | string => rfl
  | array h ih =>
    rw [Json.readable]
    exact itemsReadable_of_forall ih
  | object h ih =>
    rw [Json.readable]
    exact membersReadable_of_forall ih

end Printable

/-! ## Blanks -/

/-- There is nothing to skip before what is no blank. -/
theorem skipBlanks_cons {c : Char} (hc : isBlank c = false) (cs : List Char) :
    skipBlanks (c :: cs) = c :: cs := by
  rw [skipBlanks, List.dropWhile_cons, hc]
  rfl

/-- A line break is skipped with its indentation. -/
theorem skipBlanks_lineBreak (layout : Layout) (indent : Nat) (cs : List Char) :
    skipBlanks (layout.lineBreak indent ++ cs) = skipBlanks cs := by
  cases layout with
  | compact => rfl
  | pretty =>
    refine List.dropWhile_append_of_pos ?_
    intro c hc
    rcases List.mem_cons.mp hc with rfl | hc
    · rfl
    · rw [List.eq_of_mem_replicate hc]
      rfl

/-! ## What is written of a container -/

/-- The text of a container from the end of its first item on. -/
def laterChars (layout : Layout) (indent : Nat) (right : Char) (items : List (List Char)) :
    List Char :=
  items.flatMap (fun item => ',' :: layout.lineBreak (indent + 1) ++ item)
    ++ layout.lineBreak indent ++ [right]

/-- A container that is not empty is its first item and the text after it. -/
theorem bracket_cons (layout : Layout) (indent : Nat) (left right : Char) (first : List Char)
    (items : List (List Char)) :
    bracket layout indent left right (first :: items) =
      left :: (layout.lineBreak (indent + 1) ++
        (first ++ laterChars layout indent right items)) := by
  simp only [bracket, laterChars, List.cons_append, List.append_assoc]

section LaterChars

variable (layout : Layout) (indent : Nat) (right : Char) (rest : List Char)

/-- After the last item there is only the bracket to come. -/
theorem skipBlanks_laterChars_nil (hright : isBlank right = false) :
    skipBlanks (laterChars layout indent right [] ++ rest) = right :: rest := by
  rw [laterChars, List.flatMap_nil, List.nil_append, List.append_assoc, skipBlanks_lineBreak]
  exact skipBlanks_cons hright rest

/-- After an item that is not the last one there is a comma and the next one. -/
theorem laterChars_cons (next : List Char) (items : List (List Char)) :
    laterChars layout indent right (next :: items) ++ rest =
      ',' :: (layout.lineBreak (indent + 1) ++
        (next ++ (laterChars layout indent right items ++ rest))) := by
  simp only [laterChars, List.flatMap_cons, List.cons_append, List.append_assoc]

/-- The bracket that comes after the last item does not go on with a number. -/
theorem ends_laterChars_nil {right : Char} (hright : right = ']' ∨ right = '}') :
    Numeral.Ends (laterChars layout indent right [] ++ rest) := by
  cases layout with
  | compact =>
    rcases hright with rfl | rfl
    · exact Numeral.ends_of_mem (by decide) _
    · exact Numeral.ends_of_mem (by decide) _
  | pretty => exact Numeral.ends_of_mem (by decide) _

end LaterChars

/-! ## Scanning scalars -/

/-- What does not begin with a bracket is scanned as a scalar. -/
theorem scanValue_eq_scanScalar {c : Char} (harray : c ≠ '[') (hobject : c ≠ '{')
    (fuel depth : Nat) (cs : List Char) :
    scanValue (fuel + 1) depth (c :: cs) = scanScalar (c :: cs) := by
  rw [scanValue]
  · rintro _ ⟨⟩
    exact harray rfl
  · rintro _ ⟨⟩
    exact hobject rfl

/-- A written integer begins with a digit or a minus sign. -/
theorem exists_signed_eq_cons (n : Int) :
    ∃ c cs, Decimal.signed n = c :: cs ∧ (c = '-' ∨ c.isDigit = true) := by
  cases n with
  | ofNat n =>
    obtain ⟨c, cs, hcs, hc⟩ := Decimal.exists_digits_eq_cons n
    exact ⟨c, cs, hcs, Or.inr hc⟩
  | negSucc n => exact ⟨_, _, rfl, Or.inl rfl⟩

/-- A digit or a minus sign is none of the characters that other values begin with. -/
theorem ne_of_minus_or_digit {c : Char} (hc : c = '-' ∨ c.isDigit = true) :
    c ≠ '[' ∧ c ≠ '{' ∧ c ≠ '"' ∧ c ≠ ']' ∧ isBlank c = false := by
  have hmarks : ∀ d ∈ ['[', '{', '"', ']', ' ', '\n', '\r', '\t'], d ≠ '-' ∧ d.isDigit = false := by
    simp [Char.isDigit]
  have hne : ∀ d ∈ ['[', '{', '"', ']', ' ', '\n', '\r', '\t'], c ≠ d := by
    rintro d hd rfl
    obtain ⟨hminus, hdigit⟩ := hmarks c hd
    rcases hc with hc | hc
    · exact hminus hc
    · rw [hdigit] at hc
      cases hc
  refine ⟨hne _ (by decide), hne _ (by decide), hne _ (by decide), hne _ (by decide), ?_⟩
  have hspace := hne ' ' (by decide)
  have hnewline := hne '\n' (by decide)
  have hreturn := hne '\r' (by decide)
  have htab := hne '\t' (by decide)
  simp [isBlank, hspace, hnewline, hreturn, htab]

/-- A written integer is scanned as itself. -/
theorem scanScalar_signed {n : Int} (hn : n.natAbs < UInt64.size) {rest : List Char}
    (hrest : Numeral.Ends rest) :
    scanScalar (Decimal.signed n ++ rest) = some (integer n, rest) := by
  obtain ⟨c, cs, hcs, hc⟩ := exists_signed_eq_cons n
  obtain ⟨-, -, hquote, -, -⟩ := ne_of_minus_or_digit hc
  have hscan := Numeral.scan_signed n hrest
  rw [hcs, List.cons_append] at hscan ⊢
  rw [scanScalar]
  · rw [if_pos hc, hscan]
    simp only [Option.map_some, Numeral.toJson_ofInt hn]
  · exact hquote

/-- A written string is scanned as itself. -/
theorem scanScalar_quote (s : String) (rest : List Char) :
    scanScalar (quote s ++ rest) = some (string s, rest) := by
  rw [quote_append, scanScalar, scanString_append]
  rfl

/-- A written key is scanned as itself, with the colon after it. -/
theorem scanKey_quote (layout : Layout) (key : String) {c : Char} (hc : isBlank c = false)
    (cs : List Char) :
    scanKey (quote key ++ (layout.colon ++ c :: cs)) = some (some key, c :: cs) := by
  rw [quote_append, scanKey, scanString_append]
  cases layout with
  | compact =>
    show some (some key, skipBlanks (c :: cs)) = some (some key, c :: cs)
    rw [skipBlanks_cons hc]
  | pretty =>
    show some (some key, skipBlanks (c :: cs)) = some (some key, c :: cs)
    rw [skipBlanks_cons hc]

/-! ## Scanning values -/

/-- A value whose text is scanned as it, wherever it stands and whatever comes after it. -/
structure Scans (layout : Layout) (room : Nat) (j : Json) : Prop where
  /-- The text begins with the value, and not with the end of an array. -/
  starts : ∀ indent, ∃ c cs, chars layout indent j = c :: cs ∧ isBlank c = false ∧ c ≠ ']'
  /-- Two steps for each character are enough. -/
  scanValue_eq : ∀ (fuel depth indent : Nat) (rest : List Char), depth + room ≤ maxDepth →
    Numeral.Ends rest → 2 * (chars layout indent j ++ rest).length ≤ fuel →
    scanValue fuel depth (chars layout indent j ++ rest) = some (j, rest)

namespace Scans

variable {layout : Layout} {room : Nat}

/-! ### Scalars -/

/-- A value whose text begins with no bracket is scanned if it is scanned as a scalar. -/
theorem of_scanScalar {j : Json}
    (hstarts : ∀ indent, ∃ c cs, chars layout indent j = c :: cs ∧ isBlank c = false ∧ c ≠ ']' ∧
      c ≠ '[' ∧ c ≠ '{')
    (hscan : ∀ indent rest, Numeral.Ends rest →
      scanScalar (chars layout indent j ++ rest) = some (j, rest)) : Scans layout room j where
  starts := by
    intro indent
    obtain ⟨c, cs, hcs, hblank, hend, -⟩ := hstarts indent
    exact ⟨c, cs, hcs, hblank, hend⟩
  scanValue_eq := by
    intro fuel depth indent rest hdepth hrest hfuel
    obtain ⟨c, cs, hcs, -, -, harray, hobject⟩ := hstarts indent
    have hscalar := hscan indent rest hrest
    rw [hcs, List.cons_append] at hscalar hfuel ⊢
    have hpos : 0 < fuel := by
      rw [List.length_cons] at hfuel
      omega
    obtain ⟨fuel, rfl⟩ := Nat.exists_eq_add_one_of_ne_zero (Nat.ne_of_gt hpos)
    rw [scanValue_eq_scanScalar harray hobject, hscalar]

/-- A string is scanned as itself. -/
theorem string (s : String) : Scans layout room (string s) := by
  refine of_scanScalar ?_ ?_
  · intro indent
    exact ⟨'"', _, rfl, rfl, by decide, by decide, by decide⟩
  · intro indent rest hrest
    exact scanScalar_quote s rest

/-- An integer is scanned as itself. -/
theorem integer {n : Int} (hn : n.natAbs < UInt64.size) : Scans layout room (integer n) := by
  refine of_scanScalar ?_ ?_
  · intro indent
    obtain ⟨c, cs, hcs, hc⟩ := exists_signed_eq_cons n
    obtain ⟨harray, hobject, -, hend, hblank⟩ := ne_of_minus_or_digit hc
    exact ⟨c, cs, hcs, hblank, hend, harray, hobject⟩
  · intro indent rest hrest
    exact scanScalar_signed hn hrest

/-- A word is scanned as itself. -/
theorem word {j : Json} (hj : j = .null ∨ j = .bool true ∨ j = .bool false) :
    Scans layout room j := by
  rcases hj with rfl | rfl | rfl
  all_goals
    refine of_scanScalar ?_ ?_
    · intro indent
      exact ⟨_, _, rfl, rfl, by decide, by decide, by decide⟩
    · intro indent rest hrest
      rfl

/-! ### The first value of a text -/

section First

variable {j : Json}

/-- The text of a value is not skipped. -/
theorem skipBlanks_eq (h : Scans layout room j) (before indent : Nat) (cs : List Char) :
    skipBlanks (layout.lineBreak before ++ (chars layout indent j ++ cs)) =
      chars layout indent j ++ cs := by
  obtain ⟨c, tail, hcs, hblank, -⟩ := h.starts indent
  rw [skipBlanks_lineBreak, hcs, List.cons_append, skipBlanks_cons hblank]

/-- A key is scanned up to its value. -/
theorem scanKey_eq (h : Scans layout room j) (key : String) (indent : Nat) (cs : List Char) :
    scanKey (quote key ++ (layout.colon ++ (chars layout indent j ++ cs))) =
      some (some key, chars layout indent j ++ cs) := by
  obtain ⟨c, tail, hcs, hblank, -⟩ := h.starts indent
  rw [hcs, List.cons_append, scanKey_quote layout key hblank]

end First

/-! ### Arrays -/

/-- The text of an array from an item on, and what comes after it. -/
def itemsFrom (layout : Layout) (indent : Nat) (item : Json) (items : List Json)
    (rest : List Char) : List Char :=
  chars layout (indent + 1) item ++
    (laterChars layout indent ']' (itemChars layout (indent + 1) items) ++ rest)

/-- An item that is not the last one is followed by a comma and the next one. -/
theorem itemsFrom_cons (indent : Nat) (item next : Json) (items : List Json) (rest : List Char) :
    itemsFrom layout indent item (next :: items) rest =
      chars layout (indent + 1) item ++
        ',' :: (layout.lineBreak (indent + 1) ++ itemsFrom layout indent next items rest) := by
  rw [itemsFrom, itemChars, laterChars_cons]
  rfl

/-- Items are scanned up to the end of their array. -/
theorem scanItems_eq {item : Json} {items : List Json}
    (h : ∀ i ∈ item :: items, Scans layout room i) {fuel depth : Nat} (indent : Nat)
    (rest : List Char) (hdepth : depth + room ≤ maxDepth)
    (hfuel : 2 * (itemsFrom layout indent item items rest).length + 1 ≤ fuel) :
    scanItems fuel depth (itemsFrom layout indent item items rest) =
      some (item :: items, rest) := by
  -- the fuel goes down with the text, which loses at least a comma with each item
  induction items generalizing item fuel with
  | nil =>
    obtain ⟨fuel, rfl⟩ := Nat.exists_eq_add_one_of_ne_zero (Nat.ne_zero_of_lt hfuel)
    have hitem := (h item List.mem_cons_self).scanValue_eq fuel depth (indent + 1) _ hdepth
      (ends_laterChars_nil layout indent rest (Or.inl rfl)) (Nat.le_of_succ_le_succ hfuel)
    rw [itemsFrom, itemChars, scanItems, hitem]
    simp only [Option.bind_eq_bind, Option.bind_some,
      skipBlanks_laterChars_nil layout indent ']' rest rfl]
  | cons next items ih =>
    obtain ⟨fuel, rfl⟩ := Nat.exists_eq_add_one_of_ne_zero (Nat.ne_zero_of_lt hfuel)
    obtain ⟨hfirst, hlater⟩ := List.forall_mem_cons.mp h
    rw [itemsFrom_cons] at hfuel ⊢
    have hitem := hfirst.scanValue_eq fuel depth (indent + 1) _ hdepth
      (Numeral.ends_of_mem (by decide) _) (Nat.le_of_succ_le_succ hfuel)
    have hnext : skipBlanks (layout.lineBreak (indent + 1) ++
        itemsFrom layout indent next items rest) = itemsFrom layout indent next items rest :=
      (hlater next List.mem_cons_self).skipBlanks_eq (indent + 1) (indent + 1) _
    have hshorter : 2 * (itemsFrom layout indent next items rest).length + 1 ≤ fuel := by
      simp only [List.length_append, List.length_cons] at hfuel
      omega
    rw [scanItems, hitem]
    simp only [Option.bind_eq_bind, Option.bind_some, skipBlanks_cons (c := ',') rfl, hnext,
      ih hlater hshorter]

/-- An array whose items are scanned is scanned. -/
theorem array {items : List Json} (h : ∀ item ∈ items, Scans layout room item) :
    Scans layout (room + 1) (array items) where
  starts := by
    intro indent
    cases items with
    | nil => exact ⟨_, _, rfl, rfl, by decide⟩
    | cons item items =>
      rw [chars, itemChars, bracket_cons]
      exact ⟨_, _, rfl, rfl, by decide⟩
  scanValue_eq := by
    intro fuel depth indent rest hdepth hrest hfuel
    have hroom : depth < maxDepth := by omega
    cases items with
    | nil =>
      obtain ⟨fuel, rfl⟩ := Nat.exists_eq_add_one_of_ne_zero (Nat.ne_zero_of_lt hfuel)
      show some (container depth (Json.array []), rest) = _
      rw [container, if_pos hroom]
    | cons item items =>
      have htext : chars layout indent (Json.array (item :: items)) ++ rest =
          '[' :: (layout.lineBreak (indent + 1) ++ itemsFrom layout indent item items rest) := by
        rw [chars, itemChars, bracket_cons, List.cons_append, List.append_assoc, List.append_assoc]
        rfl
      rw [htext] at hfuel ⊢
      obtain ⟨fuel, rfl⟩ := Nat.exists_eq_add_one_of_ne_zero (Nat.ne_zero_of_lt hfuel)
      have hitem : Scans layout room item := h item List.mem_cons_self
      have hskip : skipBlanks (layout.lineBreak (indent + 1) ++
          itemsFrom layout indent item items rest) = itemsFrom layout indent item items rest :=
        hitem.skipBlanks_eq (indent + 1) (indent + 1) _
      have hshorter : 2 * (itemsFrom layout indent item items rest).length + 1 ≤ fuel := by
        simp only [List.length_append, List.length_cons] at hfuel
        omega
      have hitems := scanItems_eq h indent rest (show depth + 1 + room ≤ maxDepth by omega) hshorter
      -- the array does not close at once, since its first item begins here
      have hopen : ∀ cs, itemsFrom layout indent item items rest ≠ ']' :: cs := by
        obtain ⟨c, tail, hcs, -, hend⟩ := hitem.starts (indent + 1)
        rw [itemsFrom, hcs, List.cons_append]
        rintro cs ⟨⟩
        exact hend rfl
      rw [scanValue, hskip]
      split
      · rename_i cs hcs
        exact absurd hcs (hopen cs)
      · rw [hitems]
        simp only [Option.bind_eq_bind, Option.bind_some, container, if_pos hroom]

/-! ### Objects -/

/-- The text of an object from a member on, and what comes after it. -/
def membersFrom (layout : Layout) (indent : Nat) (member : String × Json)
    (members : List (String × Json)) (rest : List Char) : List Char :=
  quote member.1 ++ (layout.colon ++ (chars layout (indent + 1) member.2 ++
    (laterChars layout indent '}' (memberChars layout (indent + 1) members) ++ rest)))

/-- A member that is not the last one is followed by a comma and the next one. -/
theorem membersFrom_cons (indent : Nat) (member next : String × Json)
    (members : List (String × Json)) (rest : List Char) :
    membersFrom layout indent member (next :: members) rest =
      quote member.1 ++ (layout.colon ++ (chars layout (indent + 1) member.2 ++
        ',' :: (layout.lineBreak (indent + 1) ++
          membersFrom layout indent next members rest))) := by
  rw [membersFrom, memberChars, laterChars_cons, membersFrom, List.append_assoc, List.append_assoc]

/-- Members are scanned up to the end of their object. -/
theorem scanMembers_eq {member : String × Json} {members : List (String × Json)}
    (h : ∀ m ∈ member :: members, Scans layout room m.2) {fuel depth : Nat} (indent : Nat)
    (rest : List Char) (hdepth : depth + room ≤ maxDepth)
    (hfuel : 2 * (membersFrom layout indent member members rest).length + 1 ≤ fuel) :
    scanMembers fuel depth (membersFrom layout indent member members rest) =
      some ((member :: members).map fun m => (some m.1, m.2), rest) := by
  -- as with items, though a key takes no fuel of its own
  induction members generalizing member fuel with
  | nil =>
    obtain ⟨fuel, rfl⟩ := Nat.exists_eq_add_one_of_ne_zero (Nat.ne_zero_of_lt hfuel)
    have hmember : Scans layout room member.2 := h member List.mem_cons_self
    rw [membersFrom, memberChars] at hfuel ⊢
    have hvalue := hmember.scanValue_eq fuel depth (indent + 1) _ hdepth
      (ends_laterChars_nil layout indent rest (Or.inr rfl)) (by
        simp only [List.length_append] at hfuel ⊢
        omega)
    rw [scanMembers, hmember.scanKey_eq]
    simp only [Option.bind_eq_bind, Option.bind_some, hvalue,
      skipBlanks_laterChars_nil layout indent '}' rest rfl]
    rfl
  | cons next members ih =>
    obtain ⟨fuel, rfl⟩ := Nat.exists_eq_add_one_of_ne_zero (Nat.ne_zero_of_lt hfuel)
    obtain ⟨hfirst, hlater⟩ := List.forall_mem_cons.mp h
    rw [membersFrom_cons] at hfuel ⊢
    have hvalue := hfirst.scanValue_eq fuel depth (indent + 1) (',' ::
      (layout.lineBreak (indent + 1) ++ membersFrom layout indent next members rest)) hdepth
      (Numeral.ends_of_mem (by decide) _) (by
        simp only [List.length_append] at hfuel ⊢
        omega)
    have hnext : skipBlanks (layout.lineBreak (indent + 1) ++
        membersFrom layout indent next members rest) =
          membersFrom layout indent next members rest := by
      rw [skipBlanks_lineBreak, membersFrom, quote_append]
      exact skipBlanks_cons rfl _
    have hshorter : 2 * (membersFrom layout indent next members rest).length + 1 ≤ fuel := by
      simp only [List.length_append, List.length_cons] at hfuel
      omega
    rw [scanMembers, hfirst.scanKey_eq]
    simp only [Option.bind_eq_bind, Option.bind_some, hvalue, skipBlanks_cons (c := ',') rfl, hnext,
      ih hlater hshorter]
    rfl

end Scans

/-- If each image in a list leads to some value, the whole list leads to these values. -/
theorem mapM_map_eq_some {α β γ : Type} {f : β → Option γ} {g : α → β} {h : α → γ} {as : List α}
    (hf : ∀ a ∈ as, f (g a) = some (h a)) : (as.map g).mapM f = some (as.map h) := by
  induction as with
  | nil => rfl
  | cons a as ih =>
    obtain ⟨ha, has⟩ := List.forall_mem_cons.mp hf
    rw [List.map_cons, List.mapM_cons, ha, ih has]
    rfl

/-- Members all of whose keys were read make up an object. -/
theorem ofMembers_map (members : List (String × Json)) :
    ofMembers (members.map fun m => (some m.1, m.2)) = object members := by
  rw [ofMembers, mapM_map_eq_some (h := id), List.map_id]
  intro m hm
  rfl

namespace Scans

variable {layout : Layout} {room : Nat}

/-- An object whose members are scanned is scanned. -/
theorem object {members : List (String × Json)}
    (h : ∀ member ∈ members, Scans layout room member.2) :
    Scans layout (room + 1) (object members) where
  starts := by
    intro indent
    cases members with
    | nil => exact ⟨_, _, rfl, rfl, by decide⟩
    | cons member members =>
      rw [chars, memberChars, bracket_cons]
      exact ⟨_, _, rfl, rfl, by decide⟩
  scanValue_eq := by
    intro fuel depth indent rest hdepth hrest hfuel
    have hroom : depth < maxDepth := by omega
    cases members with
    | nil =>
      obtain ⟨fuel, rfl⟩ := Nat.exists_eq_add_one_of_ne_zero (Nat.ne_zero_of_lt hfuel)
      show some (container depth (Json.object []), rest) = _
      rw [container, if_pos hroom]
    | cons member members =>
      have htext : chars layout indent (Json.object (member :: members)) ++ rest =
          '{' :: (layout.lineBreak (indent + 1) ++
            membersFrom layout indent member members rest) := by
        rw [chars, memberChars, bracket_cons, membersFrom]
        simp only [List.cons_append, List.append_assoc]
      rw [htext] at hfuel ⊢
      obtain ⟨fuel, rfl⟩ := Nat.exists_eq_add_one_of_ne_zero (Nat.ne_zero_of_lt hfuel)
      have hshorter : 2 * (membersFrom layout indent member members rest).length + 1 ≤ fuel := by
        simp only [List.length_append, List.length_cons] at hfuel
        omega
      have hmembers :=
        scanMembers_eq h indent rest (show depth + 1 + room ≤ maxDepth by omega) hshorter
      -- the object does not close at once, since its first key begins here
      have hquote : ∃ cs, membersFrom layout indent member members rest = '"' :: cs :=
        ⟨_, by rw [membersFrom, quote_append]⟩
      have hopen : ∀ cs, membersFrom layout indent member members rest ≠ '}' :: cs := by
        obtain ⟨tail, htail⟩ := hquote
        rw [htail]
        rintro cs ⟨⟩
      have hskip : skipBlanks (layout.lineBreak (indent + 1) ++
          membersFrom layout indent member members rest) =
            membersFrom layout indent member members rest := by
        obtain ⟨tail, htail⟩ := hquote
        rw [skipBlanks_lineBreak, htail, skipBlanks_cons rfl]
      rw [scanValue, hskip]
      split
      · rename_i cs hcs
        exact absurd hcs (hopen cs)
      · rw [hmembers]
        simp only [Option.bind_eq_bind, Option.bind_some, container, if_pos hroom, ofMembers_map]

end Scans

/-! ## Whole documents -/

variable {room : Nat} {j : Json}

/-- A printable value is scanned as itself. -/
theorem Printable.scans (h : Printable room j) (layout : Layout) : Scans layout room j := by
  induction h with
  | null => exact .word (Or.inl rfl)
  | bool room b =>
    cases b with
    | true => exact .word (Or.inr (Or.inl rfl))
    | false => exact .word (Or.inr (Or.inr rfl))
  | integer room hn => exact .integer hn
  | string room s => exact .string s
  | array h ih => exact .array ih
  | object h ih => exact .object ih

/-- The characters that are written for a printable value denote it, with blanks after them or
without. -/
theorem ofChars?_chars_append (h : Printable room j) (hroom : room ≤ maxDepth) (layout : Layout)
    {rest : List Char} (hends : Numeral.Ends rest) (hrest : skipBlanks rest = []) :
    ofChars? (chars layout 0 j ++ rest) = some j := by
  obtain ⟨c, cs, hcs, hblank, -⟩ := (h.scans layout).starts 0
  have hskip : skipBlanks (chars layout 0 j ++ rest) = chars layout 0 j ++ rest := by
    rw [hcs, List.cons_append, skipBlanks_cons hblank]
  have hscan := (h.scans layout).scanValue_eq (2 * (chars layout 0 j ++ rest).length + 1) 0 0 rest
    (by omega) hends (Nat.le_succ _)
  rw [ofChars?, hskip, hscan]
  simp only [hrest, List.isEmpty_nil, if_true]

/-- **A document that is written for a printable value denotes it**, in either layout. -/
theorem parse?_write (h : Printable room j) (hroom : room ≤ maxDepth) (layout : Layout) :
    parse? (write layout j) = some j := by
  have hparse := ofChars?_chars_append h hroom layout Numeral.ends_nil rfl
  rw [List.append_nil] at hparse
  rwa [parse?, write, String.toList_ofList]

/-- **The line that is written for a printable value denotes it**, in either layout. -/
theorem parse?_write_line (h : Printable room j) (hroom : room ≤ maxDepth) (layout : Layout) :
    parse? (write layout j ++ "\n") = some j := by
  have hparse := ofChars?_chars_append h hroom layout
    (Numeral.ends_of_mem (c := '\n') (by decide) []) rfl
  rwa [parse?, String.toList_append, write, String.toList_ofList]

end UserPlane.Json
