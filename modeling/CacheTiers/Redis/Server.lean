import CacheTiers.Table
import CacheTiers.Text.Utf8

namespace CacheTiers.Redis

inductive Reply where
  | normal
  | close
  | hang
  | refuse (text : String)
deriving DecidableEq, Repr

inductive Command where
  | get (key : String)
  | set (key : String) (value : List UInt8)
  | setEx (key : String) (seconds : Nat) (value : List UInt8)
deriving DecidableEq, Repr

def Command.text : Command → String
  | get key => s!"GET {key}"
  | set key value => s!"SET {key} {String.ofList (Text.decodeLossy value)}"
  | setEx key seconds value => s!"SETEX {key} {seconds} {String.ofList (Text.decodeLossy value)}"

inductive LogEntry where
  | connect
  | sent (command : Command)
deriving DecidableEq, Repr

def LogEntry.text : LogEntry → String
  | connect => "connect"
  | sent command => command.text

structure Server where
  reachable : Bool
  delay : Nat
  stored : Table String (List UInt8)
  script : List Reply
  log : List LogEntry

inductive Trouble where
  | unreachable
  | closed
  | silent
  | refused (text : String)
deriving DecidableEq, Repr

namespace Server

def new (reachable : Bool) (delay : Nat) : Server := ⟨reachable, delay, .empty, [], []⟩

def accept (server : Server) : Bool × Server :=
  if server.reachable then (true, { server with log := server.log ++ [.connect] })
  else (false, server)

def perform (server : Server) : Command → Option (List UInt8) × Server
  | .get key => (server.stored.find? key, server)
  | .set key value => (none, { server with stored := server.stored.insert key value })
  | .setEx key _ value => (none, { server with stored := server.stored.insert key value })

-- Sends a command over an open connection. A scripted reply takes the place of carrying it out.
def execute (server : Server) (command : Command) : Except Trouble (Option (List UInt8)) × Server :=
  if server.reachable then
    let logged := { server with log := server.log ++ [.sent command], script := server.script.tail }
    match server.script.head?.getD .normal with
    | .normal =>
      let (answer, server) := logged.perform command
      (.ok answer, server)
    | .close => (.error .closed, logged)
    | .hang => (.error .silent, logged)
    | .refuse text => (.error (.refused text), logged)
  else (.error .unreachable, server)

def forget (server : Server) : Server := { server with log := [] }

end Server

end CacheTiers.Redis
