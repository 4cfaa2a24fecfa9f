import CacheTiers.Proofs.Manager.Descriptors
import CacheTiers.Proofs.World.TypedMap

namespace CacheTiers

open Request

variable {E : Type}

def TierState.ttl? : TierState → Option Nat
  | .memory kept => kept.ttl
  | .scripted _ => none
  | .redis tier => tier.ttl

namespace World

def Expires (world : World) (index seconds : Nat) : Prop :=
  ∃ state, world.state? index = some state ∧ state.ttl? = some seconds

-- An entry comes from one of some tiers, and keeps no value for any other time than this tier does.
def Stores (world : World) (refs : List TierRef) (endpoint : Redis.Endpoint) (entry : Redis.LogEntry) : Prop :=
  ∃ ref ∈ refs, world.Speaks [ref.index] endpoint entry ∧ ∀ seconds, world.Expires ref.index seconds →
    Redis.Timed seconds entry

variable {world after : World} {index seconds : Nat}

end World

end CacheTiers
