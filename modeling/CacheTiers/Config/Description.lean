import CacheTiers.Config.Basic

namespace CacheTiers.Config

def sorted {A : Type} (table : Table String A) : List (String × A) :=
  table.entries.mergeSort fun a b => a.1 ≤ b.1

def tierDetail (name : String) : TierSetup → String
  | .memory setup => s!"max_capacity={setup.capacity}"
  | .redis setup =>
    s!"key_prefix={setup.keyPrefix.getD name}, command_timeout={setup.commandTimeout}ms"

def tierLine (config : Config) (entry : String × TierSetup) : String :=
  s!"  {entry.1} [{entry.2.kind}] ttl={config.effectiveTtl entry.2}s, {tierDetail entry.1 entry.2}"

def keyText : List String → String
  | [param] => "`" ++ param ++ "`"
  | params => "(" ++ ", ".intercalate params ++ ")"

def wayText (tiers : List String) : String := " -> ".intercalate tiers

def operationLine (entry : String × OperationSetup) : String :=
  s!"  {entry.1}: {wayText entry.2.tiers} -> origin, key {keyText entry.2.key}, "
    ++ s!"shape {entry.2.shape.text}"

def descriptionLines (config : Config) : List String :=
  ["=== Tiers ==="] ++ (sorted config.tiers).map config.tierLine ++ ["", "=== Operations ==="]
    ++ (sorted config.operations).map operationLine

def description (config : Config) : String :=
  String.join (config.descriptionLines.map (· ++ "\n"))

end CacheTiers.Config
