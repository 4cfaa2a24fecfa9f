import CacheTiers.Operation
import CacheTiers.World.Basic

namespace CacheTiers

inductive Given where
  | value (value : Json)
  | absent
  | fails (text : String)
  | cacheFails (error : CacheError)
deriving DecidableEq, Repr

structure Origin where
  given : Given
  waits : Nat
deriving DecidableEq, Repr

namespace Given

def asPlain : Given → Except (Failure String) Json
  | value given => .ok given
  | absent => .error (.origin "the origin has no value to give")
  | fails text => .error (.origin text)
  | cacheFails error => .error (.cache error)

def asOptional : Given → Except (Failure String) (Option Json)
  | value given => .ok (some given)
  | absent => .ok none
  | fails text => .error (.origin text)
  | cacheFails error => .error (.cache error)

def asLookup : Given → Lookup Json
  | value given => .ok (some given)
  | absent => .ok none
  | fails text => .error (.tier CacheTiers.originName text)
  | cacheFails error => .error error

end Given

inductive Shown where
  | value (value : Json)
  | present (value : Json)
  | absent
deriving DecidableEq, Repr

def Shown.ofOption : Option Json → Shown
  | some given => .present given
  | none => .absent

inductive Step where
  | resolve (key : Json) (origin : Origin)
  -- `current`: whether the caller runs on a runtime; `polls`: after how many polls it gives up.
  | resolveAsync (key : Json) (origin : Origin) (current : Bool) (polls : Option Nat)
  | spawnBackfill (targets : List Nat) (key value : Json) (current : Bool)
  | keyBuilder (key : Json)
  | get (tier : Nat) (key : Json)
  | getAsync (tier : Nat) (key : Json)
  | put (tier : Nat) (key value : Json)
  | putAsync (tier : Nat) (key value : Json)
  | compute (tier : Nat) (key : Json) (origin : Origin)
  | contains (tier : Nat) (key : Json)
  | invalidate (tier : Nat) (key : Json)
  | clear (tier : Nat)
  | seed (tier : Nat) (key value : Json)
  | setGetFault (tier : Nat) (fault : Option Fault)
  | setPutFault (tier : Nat) (fault : Option Fault)
  | describeKey (tier : Nat) (key : Json)
  | storeBytes (tier : Nat) (key : String) (bytes : List UInt8)
  | script (tier : Nat) (replies : List Redis.Reply)
  | metrics
  | render
  | enableMetrics (on : Bool)

inductive Answer where
  | resolved (result : Except (Failure String) Shown)
  | cancelled
  | spawned (dispatched : Bool)
  | key (params : Except CacheError (List String)) (key : Json)
  | looked (outcome : Lookup Json)
  | written (outcome : Except CacheError Unit)
  | contains (found : Bool)
  | keyText (key description : String)
  | snapshot (counts : List (Counter × Nat))
  | lines (lines : List String)
  | enabled (on : Bool)
  | none

end CacheTiers
