import CacheTiers.Command.Arguments
import CacheTiers.Config.Description
import CacheTiers.Config.Check
import CacheTiers.Config.File

namespace CacheTiers.Command

inductive Outcome where
  | usage (said : Usage)
  | printed (text : String)
  | failed (message : String) (cause : Option CacheError)
deriving DecidableEq, Repr

def Outcome.exitCode : Outcome → Nat
  | usage said => said.exitCode
  | printed _ => 0
  | failed .. => 1

def versionText : String := "oxtier 0.1.0\n"

def validText (path : String) (config : Config) : String :=
  s!"✅ {path} is valid ({config.tiers.size} tiers, {config.operations.size} operations)\n"
    ++ String.join ((Config.sorted config.operations).map fun entry => s!"  {entry.1}\n")

def report (request : Request) (config : Config) : Outcome :=
  match request.task, config.check with
  | .validate, .ok () => .printed (validText request.path config)
  | .validate, .error violation => .failed s!"{request.path}: {violation.message}" none
  | .describe, .ok () => .printed config.description
  | .describe, .error violation => .failed violation.message none

def carryOut (request : Request) (content : Except FileFault (List UInt8)) : Outcome :=
  match Config.ofFile content with
  | .error error => .failed s!"Failed to load {request.path}" (some error)
  | .ok config => report request config

def run (arguments : List String) (read : String → Except FileFault (List UInt8)) : Outcome :=
  match parse arguments with
  | .error usage => .usage usage
  | .ok request => carryOut request (read request.path)

end CacheTiers.Command
