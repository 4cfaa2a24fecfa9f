import CacheTiers.Error
import CacheTiers.Job

namespace CacheTiers

abbrev Lookup (V : Type) := Except CacheError (Option V)

-- What a tier does when asked for a value to be computed where it is absent: it answers by itself, or it consults the
-- origin, once, and goes on from what the origin gave.
inductive Consult (W V : Type) where
  | answer (outcome : Lookup V) (world : W)
  | ask (resume : Lookup V → W → Lookup V × W) (world : W)

namespace Consult

variable {W V : Type}

def run (consult : Consult W V) (origin : W → Lookup V × W) : Lookup V × W :=
  match consult with
  | answer outcome world => (outcome, world)
  | ask resume world =>
    let (told, world) := origin world
    resume told world

end Consult

structure Tier (W K V : Type) where
  name : String
  get : K → W → Lookup V × W
  put : K → V → W → Except CacheError Unit × W
  computeIfAbsent : K → W → Consult W V
  getAsync : K → Job W (Lookup V)
  putAsync : K → V → Job W (Except CacheError Unit)

namespace Tier

variable {W K V : Type}

def keep (put : K → V → W → Except CacheError Unit × W) (key : K) (told : Lookup V) (world : W) :
    Lookup V × W :=
  match told with
  | .ok (some value) =>
    match put key value world with
    | (.ok (), world) => (.ok (some value), world)
    | (.error error, world) => (.error error, world)
  | .ok none => (.ok none, world)
  | .error error => (.error error, world)

-- The usual way to compute where absent: get, then the origin, then put what it gave.
def getThenPut (get : K → W → Lookup V × W) (put : K → V → W → Except CacheError Unit × W) (key : K)
    (world : W) : Consult W V :=
  match get key world with
  | (.ok none, world) => .ask (keep put key) world
  | (outcome, world) => .answer outcome world

end Tier

end CacheTiers
