import CacheTiers.Config.Check
import CacheTiers.Operation
import CacheTiers.World.Basic

namespace CacheTiers

structure Signature where
  key : ValueType
  value : ValueType
  shape : Shape
deriving DecidableEq, Repr

-- What a registered tier stands for: the configured tier of a name, for keys and values of two types.
structure Stand where
  tier : String
  key : ValueType
  value : ValueType
deriving DecidableEq, Repr

structure Registry where
  tiers : Table String TierSetup
  operations : Table String OperationSetup
  registered : Table Stand TierRef
  built : Table (String × Signature) (Operation TierRef)

namespace Registry

def empty : Registry := ⟨.empty, .empty, .empty, .empty⟩

def ofConfig (config : Config) : Registry := ⟨config.effectiveTiers, config.operations, .empty, .empty⟩

def operationNames (registry : Registry) : List String :=
  registry.operations.keys.mergeSort (· ≤ ·)

-- Registers a tier in place of a configured one. The latest one counts; operations that were built before keep the
-- tier that they have.
def register (stand : Stand) (ref : TierRef) (registry : Registry) : Except CacheError Registry :=
  if registry.tiers.contains stand.tier then
    .ok { registry with registered := registry.registered.insert stand ref }
  else .error (.unknownTier stand.tier)

-- What the keys of an operation begin with in a redis tier: the tier's prefix and the operation's name, so that
-- operations do not share entries.
def operationPrefix (tier operation : String) (setup : RedisSetup) : String :=
  setup.keyPrefix.getD tier ++ ":" ++ operation

def freshTier (name operation : String) (valueType : ValueType) (setup : TierSetup) (world : World) :
    Except CacheError (TierRef × World) :=
  match setup with
  | .memory setup => .ok (world.add (.memory (.new name setup.capacity setup.ttl)) false)
  | .redis setup => do
    let keyPrefix := operationPrefix name operation setup
    let tier ← RedisTier.new name { setup with keyPrefix := some keyPrefix } valueType
    return world.add (.redis tier) false

def tierFor (registry : Registry) (operation : String) (signature : Signature) (name : String)
    (world : World) : Except CacheError (TierRef × World) :=
  match registry.registered.find? ⟨name, signature.key, signature.value⟩ with
  | some ref => .ok (ref, world)
  | none => match registry.tiers.find? name with
    | some setup => freshTier name operation signature.value setup world
    | none => .error (.unknownTier name)

def tiersFor (registry : Registry) (operation : String) (signature : Signature) :
    List String → World → Except CacheError (List TierRef × World)
  | [], world => .ok ([], world)
  | name :: rest, world => do
    let (ref, world) ← registry.tierFor operation signature name world
    let (refs, world) ← registry.tiersFor operation signature rest world
    return (ref :: refs, world)

def materialise (registry : Registry) (name : String) (signature : Signature) (world : World) :
    Except CacheError (Operation TierRef × World) :=
  match registry.operations.find? name with
  | none => .error (.unknownOperation name)
  | some setup => do
    let (tiers, world) ← registry.tiersFor name signature setup.tiers world
    let draft : Draft TierRef :=
      { name, tiers, keyParams := setup.key, shape := some setup.shape, backfillRuntime := false }
    let operation ← draft.build TierRef.name signature.shape
    return (operation, world)

end Registry

end CacheTiers
