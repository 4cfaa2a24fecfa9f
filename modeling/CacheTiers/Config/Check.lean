import CacheTiers.Config.Basic
import CacheTiers.Config.Violation

namespace CacheTiers.Config

def isNameChar (c : Char) : Bool :=
  ('a' ≤ c && c ≤ 'z') || ('A' ≤ c && c ≤ 'Z') || ('0' ≤ c && c ≤ '9') || c = '-' || c = '_'

def minTimeout : Nat := 100

def maxConnectionTimeout : Nat := 30000

def maxCommandTimeout : Nat := 60000

def demand (condition : Bool) (violation : Violation) : Except Violation Unit :=
  if condition then .ok () else .error violation

def checkName (what : Named) (name : String) : Except Violation Unit := do
  demand (name.utf8ByteSize ≠ 0) (.nameEmpty what)
  demand (name.utf8ByteSize ≤ maxNameLength) (.nameTooLong what name)
  demand (name.toList.all isNameChar) (.nameCharacters what name)

def checkVersion : Option Nat → Except Violation Unit
  | none => .ok ()
  | some version => demand (version ≤ supportedVersion) (.version version)

def checkDefaultTtl (ttl : Nat) : Except Violation Unit := do
  demand (ttl ≠ 0) .defaultTtlZero
  demand (ttl ≤ maxTtl) .defaultTtlTooLong

def checkTtl (name : String) : Option Nat → Except Violation Unit
  | none => .ok ()
  | some ttl => do
    demand (ttl ≠ 0) (.ttlZero name)
    demand (ttl ≤ maxTtl) (.ttlTooLong name)

def checkKind (name : String) : TierSetup → Except Violation Unit
  | .memory setup => do
    demand (setup.capacity ≠ 0) (.capacityZero name)
    demand (setup.capacity ≤ maxCapacity) (.capacityTooLarge name)
  | .redis setup => do
    demand (setup.keyPrefix ≠ some "") (.keyPrefixEmpty name)
    demand (minTimeout ≤ setup.connectionTimeout && setup.connectionTimeout ≤ maxConnectionTimeout)
      (.connectionTimeout name)
    demand (minTimeout ≤ setup.commandTimeout && setup.commandTimeout ≤ maxCommandTimeout)
      (.commandTimeout name)

def checkTier (name : String) (tier : TierSetup) : Except Violation Unit := do
  checkName .tier name
  checkTtl name tier.ttl
  checkKind name tier

def checkUses (tiers : Table String TierSetup) (operation : String) (seen : List String) :
    List String → Except Violation Unit
  | [] => .ok ()
  | tier :: rest => do
    demand (tiers.contains tier) (.unknownTier operation tier)
    demand (tier ∉ seen) (.repeatedTier operation tier)
    checkUses tiers operation (tier :: seen) rest

def checkOperation (tiers : Table String TierSetup) (name : String) (setup : OperationSetup) :
    Except Violation Unit := do
  checkName .operation name
  demand (!setup.tiers.isEmpty) (.noTiers name)
  checkUses tiers name [] setup.tiers
  (Key.checkParams setup.key).mapError (.keyParams name)

def checkEach {A : Type} (check : String → A → Except Violation Unit) :
    List (String × A) → Except Violation Unit
  | [] => .ok ()
  | (name, entry) :: rest => do
    check name entry
    checkEach check rest

def check (config : Config) : Except Violation Unit := do
  checkVersion config.version
  checkDefaultTtl config.defaultTtl
  checkEach checkTier config.tiers.entries
  checkEach (checkOperation config.tiers) config.operations.entries

structure SoundName (name : String) : Prop where
  nonempty : name ≠ ""
  short : name.toList.length ≤ maxNameLength
  characters : ∀ c ∈ name.toList, isNameChar c = true

def SoundTtl (ttl : Nat) : Prop := 1 ≤ ttl ∧ ttl ≤ maxTtl

def SoundKind : TierSetup → Prop
  | .memory setup => 1 ≤ setup.capacity ∧ setup.capacity ≤ maxCapacity
  | .redis setup =>
    setup.keyPrefix ≠ some ""
      ∧ (minTimeout ≤ setup.connectionTimeout ∧ setup.connectionTimeout ≤ maxConnectionTimeout)
      ∧ (minTimeout ≤ setup.commandTimeout ∧ setup.commandTimeout ≤ maxCommandTimeout)

structure SoundTier (name : String) (tier : TierSetup) : Prop where
  name : SoundName name
  ttl : ∀ ttl, tier.ttl = some ttl → SoundTtl ttl
  kind : SoundKind tier

structure SoundOperation (tiers : Table String TierSetup) (name : String) (setup : OperationSetup) :
    Prop where
  name : SoundName name
  nonempty : setup.tiers ≠ []
  distinct : setup.tiers.Nodup
  configured : ∀ tier ∈ setup.tiers, (tiers.find? tier).isSome
  key : Key.SoundParams setup.key

structure WellFormed (config : Config) : Prop where
  version : ∀ version, config.version = some version → version ≤ supportedVersion
  defaultTtl : SoundTtl config.defaultTtl
  tiers : ∀ name tier, config.tiers.find? name = some tier → SoundTier name tier
  operations : ∀ name setup, config.operations.find? name = some setup →
    SoundOperation config.tiers name setup

end CacheTiers.Config
