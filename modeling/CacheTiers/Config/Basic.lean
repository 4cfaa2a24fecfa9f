import CacheTiers.Shape
import CacheTiers.Table

namespace CacheTiers

structure MemorySetup where
  capacity : Nat
  ttl : Option Nat
deriving DecidableEq, Repr

structure RedisSetup where
  address : String
  keyPrefix : Option String
  ttl : Option Nat
  connectionTimeout : Nat
  commandTimeout : Nat
deriving DecidableEq, Repr

inductive TierSetup where
  | memory (setup : MemorySetup)
  | redis (setup : RedisSetup)
deriving DecidableEq, Repr

namespace TierSetup

def kind : TierSetup → String
  | memory _ => "memory"
  | redis _ => "redis"

def ttl : TierSetup → Option Nat
  | memory setup => setup.ttl
  | redis setup => setup.ttl

def withTtl (ttl : Nat) : TierSetup → TierSetup
  | memory setup => memory { setup with ttl := some ttl }
  | redis setup => redis { setup with ttl := some ttl }

end TierSetup

structure OperationSetup where
  tiers : List String
  key : List String
  shape : Shape
deriving DecidableEq, Repr

structure Config where
  version : Option Nat
  defaultTtl : Nat
  enableMetrics : Bool
  tiers : Table String TierSetup
  operations : Table String OperationSetup

namespace Config

def effectiveTtl (config : Config) (tier : TierSetup) : Nat := tier.ttl.getD config.defaultTtl

def effectiveTiers (config : Config) : Table String TierSetup :=
  config.tiers.mapValues fun tier => tier.withTtl (config.effectiveTtl tier)

end Config

end CacheTiers
