import UserPlane.Hexadecimal

/-! # JSON strings

Inside quotes a character stands for itself unless it is a quote, a backslash or a control
character; those are **escaped**. An escape by number gives a 16-bit unit, and a character beyond
16 bits is two of them, a high and a low surrogate. So a string is read in two steps: its
**pieces**, characters and units, and then the characters that the pieces make up, if no surrogate
stands alone. -/

namespace UserPlane.Json

/-- A part of a string's text. -/
inductive Piece where
  /-- A character that stands for itself, or its short escape. -/
  | char (c : Char)
  /-- A 16-bit unit, escaped by number. -/
  | unit (code : Nat)

/-! ## Reading -/

/-- The character that a short escape stands for. -/
def shortEscape? : Char → Option Char
  | '"' => some '"'
  | '\\' => some '\\'
  | '/' => some '/'
  | 'b' => some '\x08'
  | 'f' => some '\x0c'
  | 'n' => some '\n'
  | 'r' => some '\r'
  | 't' => some '\t'
  | _ => none

/-- The pieces of a string up to its closing quote, and the text after it; those read before come
first, in reverse. -/
def pieces (read : List Piece) : List Char → Option (List Piece × List Char)
  | '"' :: rest => some (read.reverse, rest)
  | '\\' :: 'u' :: a :: b :: c :: d :: rest =>
    match Hexadecimal.unit? a b c d with
    | some code => pieces (.unit code :: read) rest
    | none => none
  -- What is left of an escape by number that is too short is no short escape either.
  | '\\' :: c :: rest =>
    match shortEscape? c with
    | some c => pieces (.char c :: read) rest
    | none => none
  | c :: rest =>
    if c.toNat < 0x20 ∨ c = '\\' then none else pieces (.char c :: read) rest
  | [] => none

/-- Whether a unit is the first half of a surrogate pair. -/
def isHighSurrogate (code : Nat) : Bool := 0xd800 ≤ code && code < 0xdc00

/-- Whether a unit is the second half of a surrogate pair. -/
def isLowSurrogate (code : Nat) : Bool := 0xdc00 ≤ code && code < 0xe000

/-- The character that a surrogate pair stands for. -/
def pairedChar (high low : Nat) : Char :=
  Char.ofNat (0x10000 + (high - 0xd800) * 0x400 + (low - 0xdc00))

/-- The characters that pieces make up; those made up before come first, in reverse. -/
def assemble (made : List Char) : List Piece → Option (List Char)
  | [] => some made.reverse
  | .char c :: rest => assemble (c :: made) rest
  | .unit high :: .unit low :: rest =>
    if isHighSurrogate high && isLowSurrogate low then
      assemble (pairedChar high low :: made) rest
    -- Half a pair alone is no character.
    else if isHighSurrogate high || isLowSurrogate high then none
    else assemble (Char.ofNat high :: made) (.unit low :: rest)
  | .unit code :: rest =>
    if isHighSurrogate code || isLowSurrogate code then none
    else assemble (Char.ofNat code :: made) rest

/-- The string up to a closing quote, if its pieces make one up, and the text after it. -/
def scanString (cs : List Char) : Option (Option String × List Char) :=
  (pieces [] cs).map fun (ps, rest) => ((assemble [] ps).map String.ofList, rest)

/-! ## Writing -/

/-- A character as it is written inside quotes. -/
def escape (c : Char) : List Char :=
  if c = '"' then ['\\', '"']
  else if c = '\\' then ['\\', '\\']
  else if c = '\x08' then ['\\', 'b']
  else if c = '\t' then ['\\', 't']
  else if c = '\n' then ['\\', 'n']
  else if c = '\x0c' then ['\\', 'f']
  else if c = '\r' then ['\\', 'r']
  else if c.toNat < 0x20 then
    ['\\', 'u', '0', '0', Hexadecimal.digit (c.toNat / 16), Hexadecimal.digit (c.toNat % 16)]
  else [c]

/-- A string in quotes. -/
def quote (s : String) : List Char := '"' :: s.toList.flatMap escape ++ ['"']

end UserPlane.Json
