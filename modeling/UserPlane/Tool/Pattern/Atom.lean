import UserPlane.Hexadecimal
import UserPlane.Text.Character

/-! # Characters, kinds and places in a pattern

How a pattern is read depends on its **flags**. No table of case or of named properties is at hand:
as long as Unicode is on, a pattern may neither hold a character while it ignores case nor use a
kind of characters such as `\d`. With Unicode off, a kind is one of ASCII, and an escape may not
stand for a byte beyond it. -/

namespace UserPlane.Tool.Pattern

open UserPlane.Text

/-- How a part of a pattern is read. -/
structure Flags where
  /-- Letters stand for both cases. -/
  ignoresCase : Bool := false
  /-- Blanks and comments stand for nothing. -/
  spaced : Bool := false
  /-- Case and kinds are those of Unicode, not only of ASCII. -/
  unicode : Bool := true

/-- Whether characters may stand for themselves. -/
def Flags.allowCharacters (f : Flags) : Bool := !(f.unicode && f.ignoresCase)

/-! ## Blanks and comments -/

/-- The text after the blanks and comments at its head; a comment ends with its line. -/
def skipNotes (inComment : Bool) : List Char → List Char
  | [] => []
  | c :: rest =>
    if inComment then skipNotes (c != '\n') rest
    else if c == '#' then skipNotes true rest
    else if isBlank c then skipNotes false rest
    else c :: rest

/-- The text at whose head the next part of a pattern stands. -/
def skip (f : Flags) (cs : List Char) : List Char :=
  if f.spaced then skipNotes false cs else cs

/-! ## Escapes -/

/-- A part of a pattern that stands for a character or for a place between characters. -/
inductive Atom where
  /-- One character. -/
  | character (c : Char)
  /-- Any character of some kind. -/
  | kind
  /-- A place. -/
  | place

/-- The number that so many digits after a first part of it denote, and what follows them. -/
def hexadecimal? (f : Flags) : (digits first : Nat) → List Char → Option (Nat × List Char)
  | 0, n, cs => some (n, cs)
  | digits + 1, n, cs =>
    match skip f cs with
    | c :: rest => do hexadecimal? f digits (16 * n + (← Hexadecimal.value? c)) rest
    | [] => none

/-- The character with a number that so many digits denote, and what follows them. -/
def numbered? (f : Flags) (digits : Nat) (cs : List Char) : Option (Atom × List Char) := do
  let (n, rest) ← hexadecimal? f digits 0 cs
  if n.isValidChar then return (.character (Char.ofNat n), rest) else none

/-- The byte that two digits denote, and what follows them. With Unicode off it stands for itself
and not for a character, which only a byte of ASCII may. -/
def byte? (f : Flags) (cs : List Char) : Option (Atom × List Char) := do
  let (n, rest) ← hexadecimal? f 2 0 cs
  if f.unicode || n < 128 then return (.character (Char.ofNat n), rest) else none

/-- What a character stands for after a backslash. -/
def escaped? (f : Flags) (c : Char) : Option Atom :=
  if c.toNat < 128 ∧ !c.isAlphanum ∧ c ≠ '<' ∧ c ≠ '>' then some (.character c)
  else match c with
    | 'a' => some (.character '\x07')
    | 't' => some (.character '\t')
    | 'n' => some (.character '\n')
    | 'v' => some (.character '\x0b')
    | 'f' => some (.character '\x0c')
    | 'r' => some (.character '\r')
    | 'A' | 'z' => some .place
    | 'b' | 'B' | '<' | '>' => if f.unicode then none else some .place
    | 'd' | 's' | 'w' => if f.unicode then none else some .kind
    | _ => none

/-- What a backslash and the head of the text after it stand for, and what follows. -/
def escape? (f : Flags) : List Char → Option (Atom × List Char)
  | 'x' :: rest => byte? f rest
  | 'u' :: rest => numbered? f 4 rest
  | 'U' :: rest => numbered? f 8 rest
  | c :: rest => (escaped? f c).map fun atom => (atom, rest)
  | [] => none

/-- The atom at the head of a text in which only a backslash is special, and what follows it. -/
def atom? (f : Flags) (cs : List Char) : Option (Atom × List Char) := do
  let (atom, rest) ← match cs with
    | '\\' :: rest => escape? f rest
    | c :: rest => some (.character c, rest)
    | [] => none
  if atom matches .character _ && !f.allowCharacters then none else some (atom, rest)

/-! ## Nesting -/

/-- How deep parts are nested together: as deep as the only one, or one deeper than the deepest. -/
def together : List Nat → Nat
  | [] => 0
  | [depth] => depth
  | depths => depths.foldr Nat.max 0 + 1

end UserPlane.Tool.Pattern
