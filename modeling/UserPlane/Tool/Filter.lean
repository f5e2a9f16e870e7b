import UserPlane.Tool.Directive

/-! # Filters

A **filter** decides which log records are shown. It is written as directives between commas; of
those that are about a record, the closest decides, and a record that none is about is not shown.
What the environment asks for goes before what the command line asks for, if all of its directives
make sense. On the command line those that make no sense are left out, and if none is left, errors
are shown. -/

namespace UserPlane.Tool

/-- Directives, of which the closest decides. -/
structure Filter where
  /-- The directives, in the order in which they were given. -/
  directives : List Directive

namespace Filter

/-- The texts between the commas, without empty ones. -/
def words (spec : String) : List (List Char) :=
  (Separator.fields ',' spec.toList).filter fun word => !word.isEmpty

/-- The filter that a text denotes, if all of its directives make sense. -/
def ofText (spec : String) : Except DirectiveError Filter :=
  return ⟨← (words spec).mapM Directive.ofChars⟩

/-- The directive that a text denotes, or nothing if it is not written as one. -/
def directive? (word : List Char) : Except DirectiveError (Option Directive) :=
  match Directive.ofChars word with
  | .ok d => .ok (some d)
  | .error .malformed => .ok none
  | .error .insideCharacter => .error .insideCharacter

/-- The filter with some directives, or the one that shows errors if there are none. -/
def orErrors : List Directive → Filter
  | [] => ⟨[⟨none, none, none, .upTo .error⟩]⟩
  | directives => ⟨directives⟩

/-- The filter that those parts of a text denote that are written as directives. -/
def ofTextLenient (spec : String) : Except DirectiveError Filter :=
  return orErrors ((← (words spec).mapM directive?).filterMap id)

/-- The filter in force: the one that the environment asks for, if it is written as one, and
otherwise the one that the command line asks for. -/
def choose (environment : Option String) (commandLine : String) : Except DirectiveError Filter :=
  match environment.map ofText with
  | some (.ok filter) => .ok filter
  | some (.error .insideCharacter) => .error .insideCharacter
  | some (.error .malformed) | none => ofTextLenient commandLine

/-- Whether a filter shows a record. -/
def admits (f : Filter) (r : LogRecord) : Bool :=
  match (f.directives.filter fun d => d.concerns r).foldl Directive.closer none with
  | some d => d.threshold.admits r.level
  | none => false

/-- A filter with one threshold for all records goes by it alone. -/
@[simp] theorem admits_level (t : Threshold) (r : LogRecord) :
    admits ⟨[⟨none, none, none, t⟩]⟩ r = t.admits r.level := rfl

/-- `choose` reads the name of a threshold on the command line as that threshold for all records,
if the environment asks for no filter. -/
theorem choose_name (t : Threshold) : choose none t.name = .ok ⟨[⟨none, none, none, t⟩]⟩ := by
  cases t with
  | off => rfl
  | upTo level => cases level <;> rfl

end Filter

end UserPlane.Tool
