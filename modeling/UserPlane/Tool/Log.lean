import UserPlane.Decimal
import UserPlane.Json.Basic

/-! # Logs

A run of the tool leaves **log records**, each with a level and a target that says which part of
the program it comes from. A **threshold** is the least grave level that is shown; it is written as
the name of the level, or as its rank. -/

namespace UserPlane.Tool

/-- How grave a log record is. -/
inductive Level where
  | error
  | warn
  | info
  | debug
  | trace
deriving DecidableEq

/-- One line of a log. -/
structure LogRecord where
  /-- How grave the record is. -/
  level : Level
  /-- The part of the program that the record comes from. -/
  target : String
  /-- What happened. -/
  message : String
  /-- What the message is about, by name. -/
  details : List (String × String) := []

/-- The least grave level shown, if any is. -/
inductive Threshold where
  | off
  | upTo (level : Level)
deriving DecidableEq

namespace Level

/-- Levels from one up, the gravest first. -/
def rank : Level → Nat
  | error => 1
  | warn => 2
  | info => 3
  | debug => 4
  | trace => 5

/-- The name of a level. -/
def name : Level → String
  | error => "ERROR"
  | warn => "WARN"
  | info => "INFO"
  | debug => "DEBUG"
  | trace => "TRACE"

/-- Every level, the gravest first. -/
def all : List Level := [error, warn, info, debug, trace]

end Level

namespace LogRecord

/-- A log record as a JSON object. -/
def toJson (r : LogRecord) : Json :=
  .object [("level", .string r.level.name), ("target", .string r.target),
    ("fields", .object (("message", .string r.message)
      :: r.details.map fun (name, value) => (name, .string value)))]

/-- Whether a record has a field with a name. -/
def hasField (r : LogRecord) (name : List Char) : Bool :=
  ("message" :: r.details.map Prod.fst).any fun field => field.toList = name

end LogRecord

namespace Threshold

/-- The name of a threshold. -/
def name : Threshold → String
  | off => "off"
  | upTo .error => "error"
  | upTo .warn => "warn"
  | upTo .info => "info"
  | upTo .debug => "debug"
  | upTo .trace => "trace"

/-- Whether a level is shown. -/
def admits : Threshold → Level → Bool
  | off, _ => false
  | upTo least, level => level.rank ≤ least.rank

/-- The threshold of a rank; zero shows nothing. -/
def ofRank? : Nat → Option Threshold
  | 0 => some off
  | n + 1 => Level.all[n]?.map upTo

/-- The number that digits, after a plus sign or none, denote. -/
def rank? : List Char → Option Nat
  | '+' :: digits => Decimal.value? digits
  | digits => Decimal.value? digits

/-- The threshold with a name, in letters of either case. -/
def ofName? (cs : List Char) : Option Threshold :=
  let upper := cs.map Char.toUpper
  if upper = "OFF".toList then some off
  else (Level.all.find? fun level => level.name.toList = upper).map upTo

/-- The threshold that a rank or a name denotes. -/
def ofChars? (cs : List Char) : Option Threshold :=
  ((rank? cs).bind ofRank?).or (ofName? cs)

end Threshold

end UserPlane.Tool
