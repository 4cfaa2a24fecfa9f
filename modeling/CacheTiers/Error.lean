import CacheTiers.Config.Violation
import CacheTiers.Text.Quoted

namespace CacheTiers

inductive ConfigFault where
  | noTiers (operation : String)
  | repeatedTier (operation tier : String)
  | keyParams (operation : String) (fault : Key.ParamFault)
  | arity (params : List String) (arity : Nat)
  | callSite (operation : String) (configured passed : List String)
  | address (tier reason : String)
  | refused (violation : Violation)
  | other (text : String)
deriving DecidableEq, Repr

def ConfigFault.message : ConfigFault → String
  | noTiers operation => s!"Operation '{operation}' has no cache tiers"
  | repeatedTier operation tier => s!"Operation '{operation}' uses tier '{tier}' more than once"
  | keyParams operation fault => fault.message operation
  | arity params count =>
    s!"Key parameters {Text.quoteList params} do not match argument arity {count}"
  | callSite operation configured passed =>
    s!"Operation '{operation}' is configured with key {Text.quoteList configured} "
      ++ s!"but the call site passes {Text.quoteList passed}"
  | address tier reason => s!"Tier '{tier}' has an invalid connection string: {reason}"
  | refused violation => violation.message
  | other text => text

inductive FileFault where
  | notFound
  | notADirectory
  | isADirectory
  | notText
  | other (text : String)
deriving DecidableEq, Repr

def FileFault.message : FileFault → String
  | notFound => "No such file or directory"
  | notADirectory => "Not a directory"
  | isADirectory => "Is a directory"
  | notText => "stream did not contain valid UTF-8"
  | other text => text

inductive CacheError where
  | tier (tier message : String)
  | serialization (reason : String)
  | config (fault : ConfigFault)
  | shapeMismatch (operation declared actual : String)
  | notFound (what : String)
  | absentValue (operation : String)
  | redis (reason : String)
  | file (fault : FileFault)
  | toml (reason : String)
deriving DecidableEq, Repr

namespace CacheError

def message : CacheError → String
  | tier name message => s!"Tier '{name}' operation failed: {message}"
  | serialization reason => s!"Serialization error: {reason}"
  | config fault => s!"Configuration error: {fault.message}"
  | shapeMismatch operation declared actual =>
    s!"Operation '{operation}' is declared as {declared} but used as {actual}"
  | notFound what => s!"Not found: {what}"
  | absentValue operation => s!"Absent value cannot be represented by operation '{operation}'"
  | redis reason => s!"Redis error: {reason}"
  | file fault => s!"IO error: {fault.message}"
  | toml reason => s!"TOML parse error: {reason}"

def unknownTier (name : String) : CacheError := notFound s!"tier {name}"

def unknownOperation (name : String) : CacheError := notFound s!"operation {name}"

end CacheError

inductive Failure (E : Type) where
  | cache (error : CacheError)
  | origin (error : E)
deriving DecidableEq, Repr

end CacheTiers
