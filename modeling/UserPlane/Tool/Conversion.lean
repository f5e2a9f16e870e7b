import UserPlane.Json.Entities
import UserPlane.Json.Reader
import UserPlane.Json.Writer
import UserPlane.Tool.CommandLine
import UserPlane.Tool.Log

/-! # Conversion of a text

The tool reads a JSON array and converts its elements one by one. What they become is printed, in
order, as one pretty JSON array; an element that becomes nothing is logged, and does not keep the
rest from being converted. The run fails if there was such an element, or if the input could not be
read at all, and then nothing is printed (`perform`).

Which records of the log are shown is left open here: a run takes a **`LogChoice`** as an argument,
and breaks off if none is made (`runWith`). -/

namespace UserPlane.Tool

/-- What a run leaves behind. -/
structure Outcome where
  /-- The exit code. -/
  exitCode : UInt32
  /-- What is printed. -/
  output : String
  /-- What is logged. -/
  log : List LogRecord

/-! ## Single elements -/

/-- What becomes of one element: a value to print or none, and what is logged about it. -/
structure Result where
  /-- The value to print, if the element becomes one. -/
  value : Option Json
  /-- What is logged. -/
  log : List LogRecord := []

/-- The target of the records that the tool itself logs. -/
def mainTarget : String := "up4_translate"

/-- The records of an element that becomes nothing. -/
def rejection (u : Unsupported) : List LogRecord :=
  let detail := match u with
    | .entry e _ =>
      { level := .debug, target := "up4_translator::decode", message := "rejecting table entry",
        details := [("entry", e.describe), ("error", u.reason)] : LogRecord }
    | .entity e _ =>
      { level := .debug, target := "up4_translator::encode", message := "rejecting UPF entity",
        details := [("entity", e.describe), ("error", u.reason)] }
  [detail, { level := .error, target := mainTarget, message := u.message }]

/-- The record of an entity that was changed to be programmed. -/
def notice (entity : Entity) (advisory : Advisory) : LogRecord :=
  { level := .warn, target := mainTarget, message := advisory.message,
    details := [("entity", entity.describe)] }

/-- Tells the kind of a device entity. -/
def classifyOne (d : DeviceEntity) : Result :=
  { value := some (match d.kind? with
      | some kind => kind.toJson
      | none => .null) }

/-- Tells the entity that a table entry programs. -/
def decodeOne (e : TableEntry) : Result :=
  match e.decode with
  | .ok entity => { value := some entity.toJson }
  | .error u => { value := none, log := rejection u }

/-- Tells the table entry that programs an entity. -/
def encodeOne (e : Entity) : Result :=
  match e.encode with
  | .ok encoded =>
    { value := some encoded.entry.toJson, log := encoded.advisory.toList.map (notice e) }
  | .error u => { value := none, log := rejection u }

/-! ## The whole input -/

/-- The record of how many elements became nothing. -/
def summary (failures : Nat) : LogRecord :=
  { level := .info, target := mainTarget,
    message := Decimal.text failures ++ " input(s) could not be translated" }

/-- How many elements became nothing. -/
def failureCount (results : List Result) : Nat :=
  results.countP fun r => r.value.isNone

/-- What is printed of the elements. -/
def printed (results : List Result) : List Json := results.filterMap Result.value

/-- What a run leaves behind whose input could be read. -/
def report (results : List Result) : Outcome :=
  let failures := failureCount results
  { exitCode := if failures = 0 then 0 else 1
    output := Json.write .pretty (.array (printed results)) ++ "\n"
    log := results.flatMap Result.log ++ (if failures = 0 then [] else [summary failures]) }

/-- What a run leaves behind whose input could not be read. -/
def refuse (message : String) : Outcome :=
  { exitCode := 1, output := "", log := [{ level := .error, target := mainTarget, message }] }

/-- Converts every element of a text. The message about a text that cannot be read ends with the
name of the file: the reader's own account of the cause, which belongs after it, is left out. -/
def convertAll {α : Type} (read : Json → Option α) (one : α → Result) (file text : String) :
    Outcome :=
  match Json.readText (Json.list? read) text with
  | .ok elements => report (elements.map one)
  | .error _ => refuse ("failed to parse " ++ file)

/-- Does what a command says with a text. -/
def convert : Command → (file text : String) → Outcome
  | .classify => convertAll DeviceEntity.ofJson? classifyOne
  | .decode => convertAll TableEntry.ofJson? decodeOne
  | .encode => convertAll Entity.ofJson? encodeOne

/-- How a file is named in messages. -/
def inputName (file : String) : String := if file = "-" then "stdin" else file

/-- What a call leaves behind, given the contents of its file or why it could not be opened. -/
def perform (i : Invocation) (contents : Except String String) : Outcome :=
  match contents with
  | .ok text => convert i.command i.file text
  | .error cause => refuse ("failed to read " ++ inputName i.file ++ ": " ++ cause)

/-! ## What is shown -/

/-- Which records of a log are shown, given what the environment says about logs and the level that
the command line names, if that can be told. -/
abbrev LogChoice : Type := Option String → String → Option (LogRecord → Bool)

/-- An outcome of whose log only those records are kept that are shown. -/
def Outcome.shownBy (o : Outcome) (shows : LogRecord → Bool) : Outcome :=
  { o with log := o.log.filter shows }

/-- What a run leaves behind that broke off before it read anything. -/
def breakOff : Outcome := { exitCode := 101, output := "", log := [] }

/-- What a call leaves behind and shows, given what the environment says about logs, if a choice
tells which records are shown. -/
def runWith (choice : LogChoice) (environment : Option String) (i : Invocation)
    (contents : Except String String) : Outcome :=
  match choice environment i.logLevel with
  | some shows => (perform i contents).shownBy shows
  | none => breakOff

end UserPlane.Tool
