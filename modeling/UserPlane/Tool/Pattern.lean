import UserPlane.Tool.Pattern.Class

/-! # Patterns

A **pattern** is written as alternatives of sequences of characters, classes, places and groups,
all of which may be repeated. **`accepts`** tells whether a text is one. A repetition with a count
is none: patterns stand between braces, and the one that ends the count would end them. A pattern
may be nested no deeper than `maxDepth`. -/

namespace UserPlane.Tool.Pattern

open UserPlane.Text

/-- How deep a pattern may be nested. -/
def maxDepth : Nat := 250

/-- What has been read of a group. -/
structure Group where
  /-- How deep the alternatives before the last one are nested. -/
  alternatives : List Nat := []
  /-- How deep the parts of the last alternative are nested, the last one first. -/
  parts : List Nat := []
  /-- Whether the last part can be repeated. -/
  repeatable : Bool := false

namespace Group

/-- How deep everything in the group is nested. -/
def depth (g : Group) : Nat := together (together g.parts :: g.alternatives)

/-- After a part that is nested so deep and can be repeated. -/
def add (g : Group) (depth : Nat) : Group :=
  { g with parts := depth :: g.parts, repeatable := true }

/-- After a change of flags, which is a part that cannot be repeated. -/
def addChange (g : Group) : Group := { g with parts := 0 :: g.parts, repeatable := false }

/-- After the sign of another alternative. -/
def alternate (g : Group) : Group := { alternatives := together g.parts :: g.alternatives }

/-- After the sign of a repetition, if there is something that can be repeated. -/
def repeat? (g : Group) : Option Group :=
  match g.repeatable, g.parts with
  | true, depth :: parts => some { g with parts := (depth + 1) :: parts }
  | _, _ => none

end Group

/-- How far a pattern has been read. -/
structure Progress where
  /-- How the next part is read. -/
  flags : Flags := {}
  /-- The innermost open group. -/
  group : Group := {}
  /-- The groups around it, and how the parts after what they hold are read. -/
  outer : List (Flags × Group) := []
  /-- The names of the groups so far. -/
  names : List (List Char) := []

/-! ## Groups -/

/-- Whether characters can name a group. -/
def isName : List Char → Bool
  | [] => false
  | c :: rest => (c == '_' || isAlphabetic c)
    && rest.all fun c => isAlphanumeric c || c == '_' || c == '.' || c == '[' || c == ']'

/-- Whether characters set and clear flags: each at most once, and some after a dash. -/
def areFlags (cs : List Char) : Bool :=
  cs.all (['i', 'm', 's', 'U', 'u', 'R', 'x', '-'].contains ·) && cs.eraseDups == cs
    && cs.getLast? != some '-'

/-- What a flag is after some characters set and clear flags. -/
def flagAfter (cs : List Char) (flag : Char) (before : Bool) : Bool :=
  let (on, off) := cs.span (· != '-')
  on.contains flag || before && !off.contains flag

/-- The flags after some characters set and clear flags. -/
def Flags.after (f : Flags) (cs : List Char) : Flags where
  ignoresCase := flagAfter cs 'i' f.ignoresCase
  spaced := flagAfter cs 'x' f.spaced
  unicode := flagAfter cs 'u' f.unicode

namespace Progress

/-- After a part that is nested so deep and can be repeated. -/
def add (p : Progress) (depth : Nat) : Progress := { p with group := p.group.add depth }

/-- Inside of a group that has just been opened. -/
def opened (p : Progress) (flags : Flags) : Progress :=
  { p with flags, group := {}, outer := (p.flags, p.group) :: p.outer }

/-- After the end of the innermost open group, if there is one. -/
def closed? (p : Progress) : Option Progress :=
  match p.outer with
  | [] => none
  | (flags, group) :: outer =>
    some { p with flags, group := group.add (p.group.depth + 1), outer }

/-- After the name at the head of a text and the bracket behind it, inside of the group that it
names. -/
def named? (p : Progress) (cs : List Char) : Option (Progress × List Char) :=
  match cs.span (· != '>') with
  | (name, '>' :: rest) =>
    if isName name && !p.names.contains name then
      some ({ p with names := name :: p.names }.opened p.flags, rest)
    else none
  | _ => none

/-- After the flags at the head of a text: inside of a group with these flags, or in the same group
with other flags. -/
def flagged? (p : Progress) (cs : List Char) : Option (Progress × List Char) :=
  match cs.span fun c => c != ':' && c != ')' with
  | (changes, ':' :: rest) =>
    if areFlags changes then some (p.opened (p.flags.after changes), rest) else none
  | (changes, ')' :: rest) =>
    if areFlags changes && !changes.isEmpty then
      some ({ p with flags := p.flags.after changes, group := p.group.addChange }, rest)
    else none
  | _ => none

/-- After the head of a group, whose parenthesis was opened before the text. -/
def group? (p : Progress) (cs : List Char) : Option (Progress × List Char) :=
  match skip p.flags cs with
  | '?' :: 'P' :: '<' :: rest | '?' :: '<' :: rest => p.named? rest
  | '?' :: rest => p.flagged? rest
  | rest => some (p.opened p.flags, rest)

/-- After the sign of a repetition before the text. With a question mark behind it, it prefers the
fewest times. -/
def repeat? (p : Progress) (cs : List Char) : Option (Progress × List Char) :=
  p.group.repeat?.map fun group =>
    ({ p with group }, match cs with
      | '?' :: rest => rest
      | rest => rest)

/-- After the class at the head of a text, whose bracket was opened before the text. -/
def class? (p : Progress) (cs : List Char) : Option (Progress × List Char) := do
  let (depth, rest) ← Pattern.class? p.flags (cs.length + 1) {} (← opened? p.flags cs)
  return (p.add depth, rest)

/-- After the part of a pattern at the head of a text. -/
def part? (p : Progress) : List Char → Option (Progress × List Char)
  | '(' :: rest => p.group? rest
  | ')' :: rest => p.closed?.map (·, rest)
  | '|' :: rest => some ({ p with group := p.group.alternate }, rest)
  | '?' :: rest | '*' :: rest | '+' :: rest => p.repeat? rest
  | '{' :: _ => none
  | '[' :: rest => p.class? rest
  | '.' :: rest => if p.flags.unicode then some (p.add 0, rest) else none
  | '^' :: rest | '$' :: rest => some (p.add 0, rest)
  | cs => (atom? p.flags cs).map fun (_, rest) => (p.add 0, rest)

/-- Whether the rest of a text completes a pattern. -/
def completes : (fuel : Nat) → Progress → List Char → Bool
  | 0, _, _ => false
  | fuel + 1, p, cs =>
    match skip p.flags cs with
    | [] => p.outer.isEmpty && p.group.depth ≤ maxDepth
    | cs =>
      match p.part? cs with
      | some (p, rest) => completes fuel p rest
      | none => false

end Progress

/-- Whether a text is a pattern. -/
def accepts (cs : List Char) : Bool := Progress.completes (cs.length + 1) {} cs

end UserPlane.Tool.Pattern
