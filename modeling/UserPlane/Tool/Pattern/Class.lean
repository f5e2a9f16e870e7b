import UserPlane.Tool.Pattern.Atom

/-! # Classes in a pattern

A **class** stands between brackets for any character out of some: it holds characters, ranges of
them, kinds, named classes and classes, and two classes may be joined to their intersection,
difference or symmetric difference. With Unicode off it holds characters of ASCII alone, and may not
be negated. **`class?`** finds its end. -/

namespace UserPlane.Tool.Pattern

open UserPlane.Text

/-! ## What a class holds -/

/-- The names of the classes that may stand in a class between `[:` and `:]`. -/
def classNames : List String :=
  ["alnum", "alpha", "ascii", "blank", "cntrl", "digit", "graph", "lower", "print", "punct",
   "space", "upper", "word", "xdigit"]

/-- Whether a named class is negated, and what follows it, after its opening bracket. -/
def named? : List Char → Option (Bool × List Char)
  | ':' :: rest =>
    let (negated, rest) := match rest with
      | '^' :: rest => (true, rest)
      | rest => (false, rest)
    match rest.span (· != ':') with
    | (name, ':' :: ']' :: rest) =>
      if classNames.contains (String.ofList name) then some (negated, rest) else none
    | _ => none
  | _ => none

/-- A character or a kind at the head of the text of a class, and what follows it. -/
def member? (f : Flags) (cs : List Char) : Option (Atom × List Char) := do
  let (atom, rest) ← atom? f cs
  match atom with
  | .character c => if f.unicode || c.toNat < 128 then some (atom, rest) else none
  | .kind => some (atom, rest)
  | .place => none

/-- The character that follows a dash. It is looked for in front of blanks, but not of comments. -/
def follower? (f : Flags) (cs : List Char) : Option Char :=
  if !f.spaced then cs.head?
  else match cs.dropWhile isBlank with
    | '#' :: rest => (rest.dropWhile isBlank).head?.or cs.head?
    | c :: _ => some c
    | [] => cs.head?

/-- What follows a character, a range or a kind at the head of the text of a class. -/
def item? (f : Flags) (cs : List Char) : Option (List Char) := do
  let (low, rest) ← member? f cs
  match skip f rest with
  | '-' :: after =>
    -- Before the end of the class, or before another dash, a dash is no sign of a range.
    if follower? f after = some ']' ∨ follower? f after = some '-' then some ('-' :: after)
    else match low, ← member? f (skip f after) with
      | .character low, (.character high, rest) => if low ≤ high then some rest else none
      | _, _ => none
  | rest => some rest

/-! ## The end of a class -/

/-- How far a class has been read. -/
structure ClassProgress where
  /-- Whether there have been dashes at most. -/
  fresh : Bool := true
  /-- How deep what it holds is nested, since it was last joined. -/
  items : List Nat := []
  /-- How deep what was joined is nested. -/
  joined : Option Nat := none

namespace ClassProgress

/-- How deep everything in the class is nested. -/
def depth (p : ClassProgress) : Nat :=
  match p.joined with
  | none => together p.items
  | some left => Nat.max left (together p.items) + 1

/-- After something that is nested so deep. -/
def add (p : ClassProgress) (depth : Nat) : ClassProgress :=
  { p with fresh := false, items := depth :: p.items }

/-- Whether a closing bracket at the head of the text closes the class; at the beginning it stands
for itself. -/
def closes (p : ClassProgress) : List Char → Bool
  | ']' :: _ => !p.fresh || !p.items.isEmpty
  | _ => false

/-- After what is at the head of the text, if it holds no class. -/
def next? (f : Flags) (p : ClassProgress) (cs : List Char) : Option (ClassProgress × List Char) :=
  match p.fresh, cs with
  | true, '-' :: rest =>
    if f.allowCharacters then some ({ p with items := 0 :: p.items }, rest) else none
  | true, ']' :: rest => if f.allowCharacters then some (p.add 0, rest) else none
  | _, '-' :: '-' :: rest | _, '&' :: '&' :: rest | _, '~' :: '~' :: rest =>
    some ({ fresh := false, joined := some p.depth }, rest)
  | _, cs => (item? f cs).map fun rest => (p.add 0, rest)

end ClassProgress

/-- The text of a class after its opening bracket and the sign of its negation, if it may have
one. -/
def opened? (f : Flags) (cs : List Char) : Option (List Char) :=
  match skip f cs with
  | '^' :: rest => if f.unicode then some rest else none
  | rest => some rest

/-- How deep the rest of a class is nested together with what has been read of it, and what follows
the class. -/
def class? (f : Flags) : (fuel : Nat) → ClassProgress → List Char → Option (Nat × List Char)
  | 0, _, _ => none
  | fuel + 1, p, cs =>
    match skip f cs with
    | '[' :: rest =>
      match named? rest with
      | some (negated, rest) =>
        if f.allowCharacters && (f.unicode || !negated) then class? f fuel (p.add 0) rest else none
      | none => do
        let (depth, rest) ← class? f fuel {} (← opened? f rest)
        class? f fuel (p.add depth) rest
    | cs =>
      if p.closes cs then some (p.depth + 1, cs.tail)
      else do
        let (p, rest) ← p.next? f cs
        class? f fuel p rest

end UserPlane.Tool.Pattern
