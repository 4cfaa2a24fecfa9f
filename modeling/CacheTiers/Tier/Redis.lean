import CacheTiers.Config.Basic
import CacheTiers.Json.ValueType
import CacheTiers.Redis.Address
import CacheTiers.Redis.Server
import CacheTiers.Tier.Basic

/-!
Redis tiers: a typed view of a key-value server. A key is kept under the prefix of the tier, a colon and
the key's JSON text; a value is kept as its JSON text. The blocking calls share one connection, which is
dropped by a command that fails; the suspending calls share another, which stays.
-/
namespace CacheTiers

structure RedisTier where
  name : String
  keyPrefix : String
  ttl : Option Nat
  valueType : ValueType
  endpoint : Redis.Endpoint
  connected : Bool
  attached : Bool
deriving DecidableEq, Repr

namespace RedisTier

open Redis (Command Server Trouble)

-- A tier without connections, as its setup asks for it. Its prefix is its name unless another is given. The
-- connection string must be sound; nothing is connected yet.
def new (name : String) (setup : RedisSetup) (valueType : ValueType) : Except CacheError RedisTier :=
  match Redis.Address.parse setup.address with
  | .error fault => .error (.config (.address name fault.message))
  | .ok address => .ok {
      name
      keyPrefix := setup.keyPrefix.getD name
      ttl := setup.ttl
      valueType
      endpoint := address.endpoint
      connected := false
      attached := false }

def serverKey (keyPrefix : String) (key : Json) : String := keyPrefix ++ ":" ++ key.render

def describe (tier : RedisTier) : String :=
  let ttl := match tier.ttl with
    | some seconds => s!"Some({seconds})"
    | none => "None"
  s!"RedisTier \x7b name: {Text.quote tier.name}, key_prefix: {Text.quote tier.keyPrefix}, ttl: {ttl} \x7d"

def getCommand (tier : RedisTier) (key : Json) : Command := .get (serverKey tier.keyPrefix key)

def putCommand (tier : RedisTier) (key value : Json) : Command :=
  match tier.ttl with
  | some seconds => .setEx (serverKey tier.keyPrefix key) seconds (serialize value)
  | none => .set (serverKey tier.keyPrefix key) (serialize value)

def troubleError (tier : RedisTier) : Trouble → CacheError
  | .unreachable => .tier tier.name "the server cannot be reached"
  | .closed => .tier tier.name "the connection was closed"
  | .silent => .tier tier.name "the server did not answer in time"
  | .refused text => .tier tier.name text

def suspendedError (tier : RedisTier) (verb : String) : Trouble → CacheError
  | .silent => .tier tier.name s!"{verb} timed out"
  | trouble => tier.troubleError trouble

-- Sends a command over the connection of the blocking calls, which is opened if it is not there, and kept only if the
-- command is answered.
def command (command : Command) (tier : RedisTier) (server : Server) :
    Except CacheError (Option (List UInt8)) × RedisTier × Server :=
  let (linked, server) := if tier.connected then (true, server) else server.accept
  if linked then
    match server.execute command with
    | (.ok answer, server) => (.ok answer, { tier with connected := true }, server)
    | (.error trouble, server) =>
      (.error (tier.troubleError trouble), { tier with connected := false }, server)
  else (.error (tier.troubleError .unreachable), { tier with connected := false }, server)

-- Sends a command over the connection of the suspending calls, which is opened if it is not there.
def commandAsync (verb : String) (command : Command) (tier : RedisTier) (server : Server) :
    Except CacheError (Option (List UInt8)) × RedisTier × Server :=
  let (linked, server) := if tier.attached then (true, server) else server.accept
  if linked then
    match server.execute command with
    | (.ok answer, server) => (.ok answer, { tier with attached := true }, server)
    | (.error trouble, server) =>
      (.error (tier.suspendedError verb trouble), { tier with attached := true }, server)
  else (.error (tier.suspendedError verb .unreachable), tier, server)

def decode (tier : RedisTier) : Except CacheError (Option (List UInt8)) → Lookup Json
  | .error error => .error error
  | .ok none => .ok none
  | .ok (some bytes) => (deserialize tier.valueType bytes).map some

def get (key : Json) (tier : RedisTier) (server : Server) : Lookup Json × RedisTier × Server :=
  let (answer, tier, server) := command (tier.getCommand key) tier server
  (tier.decode answer, tier, server)

def put (key value : Json) (tier : RedisTier) (server : Server) :
    Except CacheError Unit × RedisTier × Server :=
  let (answer, tier, server) := command (tier.putCommand key value) tier server
  (answer.map fun _ => (), tier, server)

def getAsync (key : Json) (tier : RedisTier) (server : Server) : Lookup Json × RedisTier × Server :=
  let (answer, tier, server) := commandAsync "GET" (tier.getCommand key) tier server
  (tier.decode answer, tier, server)

def putAsync (key value : Json) (tier : RedisTier) (server : Server) :
    Except CacheError Unit × RedisTier × Server :=
  let (answer, tier, server) := commandAsync "SET" (tier.putCommand key value) tier server
  (answer.map fun _ => (), tier, server)

end RedisTier

end CacheTiers
