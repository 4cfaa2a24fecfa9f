import CacheTiers.Text.Percent
import CacheTiers.Url
import CacheTiers.Words

namespace CacheTiers.Redis

inductive AddressFault where
  | noUrl
  | scheme
  | encrypted
  | noHost
  | database
  | credentials
  | protocol
  | noPath
deriving DecidableEq, Repr

def AddressFault.message : AddressFault → String
  | noUrl => "it is no address"
  | scheme => "its scheme is not that of a server"
  | encrypted => "encrypted connections are not supported"
  | noHost => "it names no host"
  | database => "its database is no number"
  | credentials => "its user or password is no text"
  | protocol => "it asks for an unknown version of the protocol"
  | noPath => "it names no path"

inductive Endpoint where
  | tcp (host : String) (port : Nat)
  | socket (path : List UInt8)
deriving DecidableEq, Repr

structure Address where
  endpoint : Endpoint
  database : Int
  user : Option String
  password : Option String
  protocol : Nat
deriving DecidableEq, Repr

namespace Address

def defaultPort : Nat := 6379

def number? (chars : List Char) : Option Int := do
  let (negative, digits) := match chars with
    | '-' :: rest => (true, rest)
    | '+' :: rest => (false, rest)
    | rest => (false, rest)
  if digits.isEmpty || !digits.all Json.isDigit then none
  let magnitude : Int := Json.digitsValue digits
  let value := if negative then -magnitude else magnitude
  if isSignedWord 64 value then return value else none

def queryText (chars : List Char) : String :=
  let spaced := chars.map fun c => if c = '+' then ' ' else c
  String.ofList (Text.decodeLossy (Text.percentDecode spaced))

def parameter? (query : List Char) (name : String) : Option String :=
  let given := (pieces (· = '&') query).filterMap fun piece =>
    let (key, value) := cutFirst (· = '=') piece
    if !piece.isEmpty && queryText key = name then some (queryText (value.getD [])) else none
  given.getLast?

def protocolOf (query : List Char) : Except AddressFault Nat :=
  match parameter? query "protocol" with
  | none | some "2" | some "resp2" => .ok 2
  | some "3" | some "resp3" => .ok 3
  | some _ => .error .protocol

def databaseOf (path : List Char) : Except AddressFault Int :=
  match (Url.segments path).filter (!·.isEmpty) with
  | [] => .ok 0
  | [segment] => match number? segment with
    | some number => .ok number
    | none => .error .database
  | _ => .error .database

def credential (chars : List Char) : Except AddressFault String :=
  match Text.decode? (Text.percentDecode chars) with
  | some text => .ok (String.ofList text)
  | none => .error .credentials

def ofHost (url : Url) : Except AddressFault Address := do
  let host ← match url.host with
    | some host => .ok host
    | none => .error .noHost
  if url.scheme = "rediss" then .error .encrypted
  let database ← databaseOf url.path
  let user ← if url.user.isEmpty then pure none else (credential url.user).map some
  let password ← match url.password with
    | some password => (credential password).map some
    | none => pure none
  let protocol ← protocolOf url.query
  return ⟨.tcp (String.ofList host) (url.port.getD defaultPort), database, user, password, protocol⟩

def ofSocket (url : Url) : Except AddressFault Address := do
  if url.path.head? ≠ some '/' then .error .noPath
  if url.host ≠ none && url.host ≠ some "localhost".toList then .error .noPath
  let database ← match parameter? url.query "db" with
    | none => .ok 0
    | some text => match number? text.toList with
      | some number => .ok number
      | none => .error .database
  let protocol ← protocolOf url.query
  return ⟨.socket (Text.percentDecode (Url.plainPath url.path)), database, parameter? url.query "user",
    parameter? url.query "pass", protocol⟩

def parse (text : String) : Except AddressFault Address :=
  match Url.parse? text with
  | none => .error .noUrl
  | some url =>
    if url.scheme = "redis" || url.scheme = "rediss" then ofHost url
    else if url.scheme = "unix" || url.scheme = "redis+unix" then ofSocket url
    else .error .scheme

end Address

end CacheTiers.Redis
