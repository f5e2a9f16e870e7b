/-! # The command line

The tool is called with options, a command and a file. Options come before the command and are
given at most once; the level's value may be written in one word with the option or as the next
word. A word that begins with a dash is taken for an option and never for a value or a file, but
for the dash alone and for what comes after `--`, which may stand before the file or after it. -/

namespace UserPlane.Tool

/-- What the tool is to do. -/
inductive Command where
  /-- Tell the kind of each device entity. -/
  | classify
  /-- Tell the entities that table entries program. -/
  | decode
  /-- Tell the table entries that program entities. -/
  | encode
deriving DecidableEq

/-- A call of the tool. -/
structure Invocation where
  /-- Which logs to show, unless the environment says it. -/
  logLevel : String
  /-- Whether logs are written as JSON. -/
  jsonLogs : Bool
  /-- What to do. -/
  command : Command
  /-- The file to do it with; a dash is the standard input. -/
  file : String
deriving DecidableEq

/-- What a command line asks for. -/
inductive Request where
  /-- The tool's name and version. -/
  | version
  /-- A run of the tool. -/
  | run (invocation : Invocation)
deriving DecidableEq

/-- The options given so far. -/
structure Options where
  logLevel : Option String := none
  jsonLogs : Bool := false

namespace Command

/-- The command with a name. -/
def ofName? : String → Option Command
  | "classify" => some classify
  | "decode" => some decode
  | "encode" => some encode
  | _ => none

end Command

namespace Options

/-- The options with a level, if none was given before. -/
def withLevel? (o : Options) (level : String) : Option Options :=
  match o.logLevel with
  | none => some { o with logLevel := some level }
  | some _ => none

/-- The options with JSON logs, if they were not asked for before. -/
def withJsonLogs? (o : Options) : Option Options :=
  if o.jsonLogs then none else some { o with jsonLogs := true }

end Options

namespace Request

/-- Whether a word is taken for an option. -/
def isOption (word : String) : Bool :=
  match word.toList with
  | '-' :: _ :: _ => true
  | _ => false

/-- How a word is to be taken before the command. -/
inductive Word where
  /-- The version is asked for. -/
  | version
  /-- JSON logs are asked for. -/
  | jsonLogs
  /-- The level is asked for, in the next word. -/
  | levelNext
  /-- The level is asked for, in this word. -/
  | level (level : String)
  /-- The command. -/
  | command (command : Command)
  /-- Nothing that makes sense here. -/
  | other

/-- The level in a word, after a dash and a letter. -/
def shortLevel : List Char → Word
  | [] => .levelNext
  | '=' :: level => .level (String.ofList level)
  | level => .level (String.ofList level)

/-- How a word is to be taken. -/
def wordOf (word : String) : Word :=
  match word.toList with
  -- Letters after the first are further options, but the version is shown at once.
  | '-' :: 'V' :: _ => .version
  | '-' :: 'l' :: level => shortLevel level
  | '-' :: '-' :: 'l' :: 'o' :: 'g' :: '-' :: 'l' :: 'e' :: 'v' :: 'e' :: 'l' :: '=' :: level =>
    .level (String.ofList level)
  | _ =>
    if word = "--version" then .version
    else if word = "--json-logs" then .jsonLogs
    else if word = "--log-level" then .levelNext
    else match Command.ofName? word with
      | some command => .command command
      | none => .other

/-- The file that the words after the command name. -/
def file? : List String → Option String
  | ["--", file] => some file
  | [file] | [file, "--"] => if isOption file then none else some file
  | _ => none

/-- What the words ask for, after some options. -/
def ofWords? (given : Options) : List String → Option Request
  | [] => none
  | word :: rest =>
    match wordOf word with
    | .version => some .version
    | .jsonLogs => given.withJsonLogs?.bind fun given => ofWords? given rest
    | .level level => (given.withLevel? level).bind fun given => ofWords? given rest
    | .levelNext =>
      match rest with
      | level :: rest =>
        if isOption level then none
        else (given.withLevel? level).bind fun given => ofWords? given rest
      | [] => none
    | .command command =>
      (file? rest).map fun file =>
        .run { logLevel := given.logLevel.getD "info", jsonLogs := given.jsonLogs, command, file }
    | .other => none

end Request

end UserPlane.Tool
