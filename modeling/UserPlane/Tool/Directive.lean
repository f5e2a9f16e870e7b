import UserPlane.Decimal
import UserPlane.Separator
import UserPlane.Text.Character
import UserPlane.Text.Cut
import UserPlane.Tool.Log
import UserPlane.Tool.Pattern

/-! # Directives

A **directive** says how much is shown of some log records: of all, of those whose target begins in
some way, or of those that have a field. It is written as a level, as a target, or as
`target[span{field=value}]=level`, where the target or the brackets and what is in them may be left
out; without a level all is shown. **`Directive.ofChars`** reads one.

The signs of a directive are looked for between the blanks around it. Their places are counted from
its first character that is not blank, but the parts between them are cut out of the text with the
blanks: a blank at the end belongs to the last part, and blanks at the beginning move every part, so
that a cut may even fall inside of a character. -/

namespace UserPlane.Tool

open UserPlane.Text

/-- What a directive asks of a field. -/
structure FieldTest where
  /-- The name of the field. -/
  name : List Char
  /-- The pattern of its value, if one is asked for. -/
  pattern : Option (List Char)

/-- What is shown of some records. -/
structure Directive where
  /-- How the targets of the records begin, if that matters. -/
  target : Option (List Char)
  /-- The span that the records are in, if that matters. -/
  span : Option (List Char)
  /-- The field that the records have, if that matters. -/
  field : Option FieldTest
  /-- What is shown of the records. -/
  threshold : Threshold

/-- Why a text is no directive. -/
inductive DirectiveError where
  /-- The text is not written as a directive. -/
  | malformed
  /-- A part of the text would begin or end inside of a character. -/
  | insideCharacter

/-! ## Levels, fields and words -/

namespace Threshold

/-- What a level shows; all is shown if it is left out. -/
def ofLevel (cs : List Char) : Except DirectiveError Threshold :=
  if cs.isEmpty then .ok (.upTo .trace)
  else match ofChars? cs with
    | some threshold => .ok threshold
    | none => .error .malformed

end Threshold

namespace FieldTest

/-- Whether characters are an exponent, or nothing. -/
def isExponent : List Char → Bool
  | [] => true
  | e :: '+' :: digits | e :: '-' :: digits | e :: digits =>
    e.toLower == 'e' && (Decimal.value? digits).isSome

/-- Whether characters are a number without a sign. -/
def isNumber (cs : List Char) : Bool :=
  let (whole, rest) := cs.span Char.isDigit
  let (fraction, rest) := match rest with
    | '.' :: rest => rest.span Char.isDigit
    | rest => ([], rest)
  (!(whole ++ fraction).isEmpty && isExponent rest)
    || ["inf", "infinity", "nan"].any fun word => word.toList = cs.map Char.toLower

/-- Whether a value can be asked for: a pattern, or a number after a plus sign, with which no
pattern begins. -/
def canAsk : List Char → Bool
  | '+' :: number => isNumber number
  | cs => Pattern.accepts cs

/-- What is asked of a field: its name, or its name and value around an equals sign. What follows
another equals sign does not count. -/
def ofChars (cs : List Char) : Except DirectiveError FieldTest :=
  match Separator.fields '=' cs with
  | [name] => if name.isEmpty then .error .malformed else .ok ⟨name, none⟩
  | name :: value :: _ => if canAsk value then .ok ⟨name, some value⟩ else .error .malformed
  | [] => .error .malformed

end FieldTest

namespace Directive

/-- The directive that a level or a target alone denotes. -/
def ofWord (cs : List Char) : Directive :=
  match Threshold.ofChars? cs with
  | some threshold => ⟨none, none, none, threshold⟩
  | none => ⟨some cs, none, none, .upTo .trace⟩

/-- Whether a level or a target can begin with a character. -/
def canBegin (c : Char) : Bool := c == '-' || c == ':' || c == '_' || isAlphanumeric c

/-! ## The signs of a directive -/

/-- What is being read. A part is given with the place where it begins. -/
inductive Stage where
  /-- Nothing yet. -/
  | start
  /-- A level or a target. -/
  | word (start : Nat)
  /-- The name of a span. -/
  | span (start : Nat)
  /-- A field. -/
  | field (start : Nat)
  /-- The end of the brackets, after a field. -/
  | bracket
  /-- An equals sign, after the brackets. -/
  | equals
  /-- A level. -/
  | level (start : Nat)

/-- The parts of a directive read so far. -/
structure Progress where
  /-- What is being read. -/
  stage : Stage := .start
  /-- The target. -/
  target : Option (List Char) := none
  /-- The name of the span. -/
  span : Option (List Char) := none
  /-- The field. -/
  field : Option FieldTest := none

/-- The part of a text between two places. -/
def part (text : List Char) (start stop : Nat) : Except DirectiveError (List Char) :=
  match between? start stop text with
  | some cs => .ok cs
  | none => .error .insideCharacter

/-- The part of a text from a place to its end. -/
def lastPart (text : List Char) (start : Nat) : Except DirectiveError (List Char) :=
  match dropBytes? start text with
  | some cs => .ok cs
  | none => .error .insideCharacter

namespace Progress

/-- Reads the character at a place. -/
def read (text : List Char) (p : Progress) (place : Nat) (c : Char) :
    Except DirectiveError Progress :=
  match p.stage, c with
  | .start, '[' => return { p with stage := .span (place + 1) }
  | .start, _ => if canBegin c then return { p with stage := .word place } else throw .malformed
  | .word start, '=' => do
    return { p with stage := .level (place + 1), target := some (← part text start place) }
  | .word start, '[' => do
    return { p with stage := .span (place + 1), target := some (← part text start place) }
  | .span start, ']' => do
    return { p with stage := .equals, span := some (← part text start place) }
  | .span start, '{' => do
    let name ← part text start place
    return { p with
      stage := .field (place + 1), span := if name.isEmpty then none else some name }
  | .field start, '}' => do
    let field ← FieldTest.ofChars (← part text start place)
    return { p with stage := .bracket, field := some field }
  | .bracket, ']' => return { p with stage := .equals }
  | .equals, '=' => return { p with stage := .level (place + 1) }
  | .word _, _ | .span _, _ | .field _, _ | .level _, _ => return p
  | .bracket, _ | .equals, _ => throw .malformed

/-- Reads characters from a place on. -/
def readAll (text : List Char) (p : Progress) (place : Nat) :
    List Char → Except DirectiveError Progress
  | [] => .ok p
  | c :: rest => do readAll text (← p.read text place c) (place + c.utf8Size) rest

/-- The directive that has been read when there is no character left. -/
def finish (text : List Char) (p : Progress) : Except DirectiveError Directive :=
  match p.stage with
  | .word start => do return ofWord (← lastPart text start)
  | .level start => do
    return ⟨p.target, p.span, p.field, ← Threshold.ofLevel (← lastPart text start)⟩
  | .equals => return ⟨p.target, p.span, p.field, .upTo .trace⟩
  | .start | .span _ | .field _ | .bracket => throw .malformed

end Progress

/-- The directive that a text denotes. -/
def ofChars (text : List Char) : Except DirectiveError Directive := do
  (← Progress.readAll text {} 0 (trim text)).finish text

/-! ## What a directive is about -/

/-- Whether a directive is about a record. Records are not left inside of spans, where alone the
values of fields are compared with patterns. -/
def concerns (d : Directive) (r : LogRecord) : Bool :=
  d.span.isNone
    && d.target.all (fun target => target.isPrefixOf r.target.toList)
    && d.field.all fun field => field.pattern.isNone && r.hasField field.name

/-- How closely two directives describe a record that both are about: the longer target is closer,
and of two with the same target the one with a field, the last one in the alphabet. -/
def compareCloseness (a b : Directive) : Ordering :=
  (compare (a.target.map List.length) (b.target.map List.length)).then
    (compare (a.field.map FieldTest.name) (b.field.map FieldTest.name))

/-- The closer directive; of two that are as close, the later one. -/
def closer (best : Option Directive) (d : Directive) : Option Directive :=
  match best with
  | some b => if (compareCloseness b d).isLE then some d else some b
  | none => some d

end Directive

end UserPlane.Tool
