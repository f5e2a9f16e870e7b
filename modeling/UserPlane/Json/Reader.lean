import UserPlane.Json.Number
import UserPlane.Json.Text

/-! # Reading JSON text

**`Json.parse?`** gives the value of a text that is one well-formed document, with blanks around
its tokens and nothing after it. Containers nested more than 127 deep are read over, but denote no
value. **`Json.readText`** reads a text as something else through its value, and tells text that is
no JSON from JSON that has the wrong shape; a text that fails to be read and holds anything that
denotes no value counts as no JSON. -/

namespace UserPlane.Json

/-- Whether a character may stand between tokens. -/
def isBlank (c : Char) : Bool := c == ' ' || c == '\n' || c == '\r' || c == '\t'

/-- The text after the blanks at its head. -/
def skipBlanks (cs : List Char) : List Char := cs.dropWhile isBlank

/-- How deep containers may be nested and still be values. -/
def maxDepth : Nat := 127

/-- A container with the given number of containers around it. -/
def container (depth : Nat) (value : Json) : Json :=
  if depth < maxDepth then value else unreadable

/-- The object with the given members, if every key is a string. -/
def ofMembers (members : List (Option String × Json)) : Json :=
  match members.mapM fun (key, value) => key.map fun key => (key, value) with
  | some members => object members
  | none => unreadable

/-- A value that is one word. -/
def scanWord : List Char → Option (Json × List Char)
  | 'n' :: 'u' :: 'l' :: 'l' :: rest => some (null, rest)
  | 't' :: 'r' :: 'u' :: 'e' :: rest => some (bool true, rest)
  | 'f' :: 'a' :: 'l' :: 's' :: 'e' :: rest => some (bool false, rest)
  | _ => none

/-- A value that is no container. -/
def scanScalar : List Char → Option (Json × List Char)
  | '"' :: rest =>
    (scanString rest).map fun (s, rest) => ((s.map string).getD unreadable, rest)
  | c :: rest =>
    if c = '-' ∨ c.isDigit then
      (Numeral.scan (c :: rest)).map fun (n, rest) => (n.toJson, rest)
    else scanWord (c :: rest)
  | [] => none

/-- The key at the head of a member, and the text after the colon. -/
def scanKey : List Char → Option (Option String × List Char)
  | '"' :: rest => do
    let (key, rest) ← scanString rest
    match skipBlanks rest with
    | ':' :: rest => some (key, skipBlanks rest)
    | _ => none
  | _ => none

mutual

/-- The value at the head of a text, with so many containers around it, and what follows it. -/
def scanValue : (fuel depth : Nat) → List Char → Option (Json × List Char)
  | 0, _, _ => none
  | fuel + 1, depth, '[' :: rest =>
    -- Only an array without items may close at once: a comma is followed by an item.
    match skipBlanks rest with
    | ']' :: rest => some (container depth (array []), rest)
    | rest => do
      let (items, rest) ← scanItems fuel (depth + 1) rest
      some (container depth (array items), rest)
  | fuel + 1, depth, '{' :: rest =>
    match skipBlanks rest with
    | '}' :: rest => some (container depth (object []), rest)
    | rest => do
      let (members, rest) ← scanMembers fuel (depth + 1) rest
      some (container depth (ofMembers members), rest)
  | _ + 1, _, cs => scanScalar cs

/-- The items at the head of a text up to the end of their array, and what follows it. -/
def scanItems : (fuel depth : Nat) → List Char → Option (List Json × List Char)
  | 0, _, _ => none
  | fuel + 1, depth, cs => do
    let (item, rest) ← scanValue fuel depth cs
    match skipBlanks rest with
    | ',' :: rest =>
      let (items, rest) ← scanItems fuel depth (skipBlanks rest)
      some (item :: items, rest)
    | ']' :: rest => some ([item], rest)
    | _ => none

/-- The members at the head of a text up to the end of their object, and what follows it. -/
def scanMembers : (fuel depth : Nat) → List Char → Option (List (Option String × Json) × List Char)
  | 0, _, _ => none
  | fuel + 1, depth, cs => do
    let (key, rest) ← scanKey cs
    let (value, rest) ← scanValue fuel depth rest
    match skipBlanks rest with
    | ',' :: rest =>
      let (members, rest) ← scanMembers fuel depth (skipBlanks rest)
      some ((key, value) :: members, rest)
    | '}' :: rest => some ([(key, value)], rest)
    | _ => none

end

/-- The value that characters denote, if they are one document. -/
def ofChars? (cs : List Char) : Option Json :=
  -- Each step of the scan takes a character or opens a value that takes one.
  match scanValue (2 * cs.length + 1) 0 (skipBlanks cs) with
  | some (value, rest) => if (skipBlanks rest).isEmpty then some value else none
  | none => none

/-- The value that a text denotes, if it is one document. -/
def parse? (text : String) : Option Json := ofChars? text.toList

/-- Why a text could not be read as something. -/
inductive ReadFailure where
  /-- The text is no JSON document, or not all of it denotes a value. -/
  | malformed
  /-- The document does not have the shape of what was to be read. -/
  | wrongShape
deriving DecidableEq

/-- Reads a text through the value it denotes. -/
def readText {α : Type} (read : Json → Option α) (text : String) : Except ReadFailure α :=
  match parse? text with
  | none => .error .malformed
  | some value =>
    match read value with
    | some a => .ok a
    | none => .error (if value.readable then .wrongShape else .malformed)

end UserPlane.Json
