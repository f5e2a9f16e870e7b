import UserPlane.Tool.Run

/-! # The command line tool

Reads the input, runs the tool, and prints what the run leaves behind. -/

namespace UserPlane.Tool

/-- Why a file could not be read, in words. -/
def describeFailure : IO.Error → String
  | .noFileOrDirectory _ code _ =>
    "No such file or directory (os error " ++ Decimal.text code.toNat ++ ")"
  | other => toString other

/-- The contents of a file, or of the standard input for a dash. -/
def readInput (file : String) : IO (Except String String) := do
  try
    if file = "-" then return .ok (← (← IO.getStdin).readToEnd)
    else return .ok (← IO.FS.readFile file)
  catch failure => return .error (describeFailure failure)

/-- Writes a record to the standard error. -/
def writeRecord (jsonLogs : Bool) (r : LogRecord) : IO Unit :=
  IO.eprintln
    (if jsonLogs then Json.write .compact r.toJson
    else r.level.name ++ " " ++ r.target ++ ": " ++ r.message
      ++ String.join (r.details.map fun (name, value) => " " ++ name ++ "=" ++ value))

end UserPlane.Tool

open UserPlane.Tool in
/-- Runs the tool on its arguments. -/
def main (args : List String) : IO UInt32 := do
  match Request.ofWords? {} args with
  | none =>
    IO.eprintln "usage: up4-translate [-l LEVEL] [--json-logs] (classify|decode|encode) FILE"
    return 2
  | some .version =>
    IO.print versionLine
    return 0
  | some (.run invocation) =>
    let outcome := run (← IO.getEnv "RUST_LOG") invocation (← readInput invocation.file)
    for r in outcome.log do
      writeRecord invocation.jsonLogs r
    IO.print outcome.output
    return outcome.exitCode
