import UserPlane.Decimal
import UserPlane.Json.Basic
import UserPlane.Json.Text

/-! # Writing JSON text

A value is written in one of two **layouts**: `compact`, without any blank, or `pretty`, with every
item and member on a line of its own, two blanks in for each container around it. Either way an
empty container is just its brackets. The layouts differ in blanks only, so one writer serves both.
-/

namespace UserPlane.Json

/-- How a value is laid out. -/
inductive Layout where
  /-- On one line, without blanks. -/
  | compact
  /-- Over several lines. -/
  | pretty
deriving DecidableEq

namespace Layout

/-- What comes before an item with so many containers around it. -/
def lineBreak : Layout → Nat → List Char
  | compact, _ => []
  | pretty, depth => '\n' :: List.replicate (2 * depth) ' '

/-- What comes between a key and its value. -/
def colon : Layout → List Char
  | compact => [':']
  | pretty => [':', ' ']

end Layout

/-- Items between brackets, each already laid out. -/
def bracket (layout : Layout) (depth : Nat) (left right : Char) : List (List Char) → List Char
  | [] => [left, right]
  | first :: rest =>
    left :: layout.lineBreak (depth + 1) ++ first
      ++ rest.flatMap (fun item => ',' :: layout.lineBreak (depth + 1) ++ item)
      ++ layout.lineBreak depth ++ [right]

mutual

/-- The characters of a value with so many containers around it. -/
def chars (layout : Layout) (depth : Nat) : Json → List Char
  | null | unreadable => ['n', 'u', 'l', 'l']
  | bool true => ['t', 'r', 'u', 'e']
  | bool false => ['f', 'a', 'l', 's', 'e']
  | integer n => Decimal.signed n
  | fractional literal => literal.toList
  | string s => quote s
  | array items => bracket layout depth '[' ']' (itemChars layout (depth + 1) items)
  | object members => bracket layout depth '{' '}' (memberChars layout (depth + 1) members)

/-- The characters of each item. -/
def itemChars (layout : Layout) (depth : Nat) : List Json → List (List Char)
  | [] => []
  | item :: rest => chars layout depth item :: itemChars layout depth rest

/-- The characters of each member. -/
def memberChars (layout : Layout) (depth : Nat) : List (String × Json) → List (List Char)
  | [] => []
  | (key, value) :: rest =>
    (quote key ++ layout.colon ++ chars layout depth value) :: memberChars layout depth rest

end

/-- The text of a value. -/
def write (layout : Layout) (value : Json) : String := String.ofList (chars layout 0 value)

end UserPlane.Json
