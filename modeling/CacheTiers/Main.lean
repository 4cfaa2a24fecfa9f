import CacheTiers.Command.Basic

open CacheTiers

namespace CacheTiers.Command

def usageText : Usage → String
  | .version => versionText
  | .help | .nothing =>
    "Usage: oxtier <COMMAND>\n\nCommands:\n"
      ++ "  validate  Parse and validate a tier configuration file\n"
      ++ "  describe  Show the tiers and operations of a configuration file\n"
  | .missingArgument => "error: the path of the configuration file is missing\n"
  | .unknownArgument => "error: unexpected argument\n"
  | .unknownTask => "error: unrecognized subcommand\n"
  | .emptyPath => "error: the path of the configuration file is empty\n"
  | .surplusValue => "error: the option takes no value\n"

def faultOf : IO.Error → FileFault
  | .noFileOrDirectory .. => .notFound
  | .inappropriateType .. => .isADirectory
  | error => .other (toString error)

def readFile (path : String) : IO (Except FileFault (List UInt8)) := do
  try
    let content ← IO.FS.readBinFile path
    return .ok content.toList
  catch error => return .error (faultOf error)

def print (outcome : Outcome) : IO Unit := do
  match outcome with
  | .printed text => (← IO.getStdout).putStr text
  | .usage usage =>
    if usage.exitCode = 0 then (← IO.getStdout).putStr (usageText usage)
    else (← IO.getStderr).putStr (usageText usage)
  | .failed message cause =>
    let stderr ← IO.getStderr
    stderr.putStrLn s!"Error: {message}"
    match cause with
    | some error => stderr.putStrLn s!"\nCaused by:\n    {error.message}"
    | none => return

end CacheTiers.Command

def main (arguments : List String) : IO UInt32 := do
  let outcome ← match Command.parse arguments with
    | .error usage => pure (Command.Outcome.usage usage)
    | .ok request => do
      let content ← Command.readFile request.path
      pure (Command.carryOut request content)
  Command.print outcome
  return outcome.exitCode.toUInt32
