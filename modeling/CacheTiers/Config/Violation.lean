import CacheTiers.Key.Params

namespace CacheTiers

inductive Named where
  | tier
  | operation
deriving DecidableEq, Repr

def Named.text : Named → String
  | tier => "Tier"
  | operation => "Operation"

def maxNameLength : Nat := 64

def maxTtl : Nat := 86400 * 30

def maxCapacity : Nat := 10000000

def supportedVersion : Nat := 1

inductive Violation where
  | version (version : Nat)
  | defaultTtlZero
  | defaultTtlTooLong
  | nameEmpty (what : Named)
  | nameTooLong (what : Named) (name : String)
  | nameCharacters (what : Named) (name : String)
  | ttlZero (tier : String)
  | ttlTooLong (tier : String)
  | capacityZero (tier : String)
  | capacityTooLarge (tier : String)
  | keyPrefixEmpty (tier : String)
  | connectionTimeout (tier : String)
  | commandTimeout (tier : String)
  | noTiers (operation : String)
  | unknownTier (operation tier : String)
  | repeatedTier (operation tier : String)
  | keyParams (operation : String) (fault : Key.ParamFault)
deriving DecidableEq, Repr

def Violation.message : Violation → String
  | version n =>
    s!"Configuration version {n} is not supported. Current version is {supportedVersion}."
  | defaultTtlZero => "Global default_ttl cannot be zero"
  | defaultTtlTooLong => s!"Global default_ttl cannot exceed 30 days ({maxTtl} seconds)"
  | nameEmpty what => s!"{what.text} name cannot be empty"
  | nameTooLong what name =>
    s!"{what.text} name '{name}' exceeds maximum length of {maxNameLength} characters"
  | nameCharacters what name =>
    s!"{what.text} name '{name}' may only contain letters, digits, '-' and '_'"
  | ttlZero tier => s!"Tier '{tier}' TTL cannot be zero"
  | ttlTooLong tier => s!"Tier '{tier}' TTL cannot exceed 30 days"
  | capacityZero tier => s!"Tier '{tier}' max_capacity cannot be zero"
  | capacityTooLarge tier => s!"Tier '{tier}' max_capacity cannot exceed 10,000,000"
  | keyPrefixEmpty tier => s!"Tier '{tier}' key_prefix cannot be empty"
  | connectionTimeout tier =>
    s!"Tier '{tier}' connection_timeout_ms must be between 100 and 30000 ms"
  | commandTimeout tier => s!"Tier '{tier}' command_timeout_ms must be between 100 and 60000 ms"
  | noTiers operation => s!"Operation '{operation}' must use at least one tier"
  | unknownTier operation tier => s!"Operation '{operation}' refers to unknown tier '{tier}'"
  | repeatedTier operation tier => s!"Operation '{operation}' uses tier '{tier}' more than once"
  | keyParams operation fault => "Configuration error: " ++ fault.message operation

end CacheTiers
