import CacheTiers.Tier.Memory
import CacheTiers.Tier.Redis
import CacheTiers.Tier.Scripted
import CacheTiers.World.Journal

/-!
The world of the tiers: every tier that was ever made, by number, the servers that redis tiers speak to,
and the journal. A tier is referred to by its number, so that it can be shared.
-/
namespace CacheTiers

inductive TierState where
  | memory (memory : Memory Json Json)
  | scripted (scripted : Scripted Json Json)
  | redis (tier : RedisTier)

-- A tier in the world; `noted` says whether calls to it are entered in the journal.
structure Slot where
  state : TierState
  noted : Bool

structure TierRef where
  index : Nat
  name : String
deriving DecidableEq, Repr

structure World where
  slots : List Slot
  servers : Table Redis.Endpoint Redis.Server
  journal : List Entry

namespace World

def empty : World := ⟨[], .empty, []⟩

instance : Inhabited World := ⟨empty⟩

def nameOf : TierState → String
  | .memory memory => memory.name
  | .scripted scripted => scripted.name
  | .redis tier => tier.name

def add (state : TierState) (noted : Bool) (world : World) : TierRef × World :=
  (⟨world.slots.length, nameOf state⟩, { world with slots := world.slots ++ [⟨state, noted⟩] })

def note (entry : Entry) (world : World) : World := { world with journal := world.journal ++ [entry] }

def noteAt (index : Nat) (entry : Entry) (world : World) : World :=
  match world.slots[index]? with
  | some slot => if slot.noted then world.note entry else world
  | none => world

def state? (world : World) (index : Nat) : Option TierState := (world.slots[index]?).map Slot.state

def setState (index : Nat) (state : TierState) (world : World) : World :=
  { world with slots := world.slots.modify index fun slot => { slot with state } }

-- The server at an endpoint; where none is known, one that cannot be reached.
def server (world : World) (endpoint : Redis.Endpoint) : Redis.Server :=
  (world.servers.find? endpoint).getD (.new false 0)

def setServer (endpoint : Redis.Endpoint) (server : Redis.Server) (world : World) : World :=
  { world with servers := world.servers.insert endpoint server }

def atServer {A : Type} (index : Nat) (call : RedisTier → Redis.Server → A × RedisTier × Redis.Server)
    (tier : RedisTier) (world : World) : A × World :=
  let (answer, later, server) := call tier (world.server tier.endpoint)
  (answer, (world.setState index (.redis later)).setServer tier.endpoint server)

def get (index : Nat) (key : Json) (world : World) : Lookup Json × World :=
  match world.state? index with
  | none => (.ok none, world)
  | some (.memory memory) =>
    let (answer, later) := Memory.get key memory
    (answer, world.setState index (.memory later))
  | some (.scripted scripted) =>
    let (answer, later) := Scripted.get key scripted
    (answer, world.setState index (.scripted later))
  | some (.redis tier) => atServer index (RedisTier.get key) tier world

def put (index : Nat) (key value : Json) (world : World) : Except CacheError Unit × World :=
  match world.state? index with
  | none => (.ok (), world)
  | some (.memory memory) =>
    let (answer, later) := Memory.put key value memory
    (answer, world.setState index (.memory later))
  | some (.scripted scripted) =>
    let (answer, later) := Scripted.put key value scripted
    (answer, world.setState index (.scripted later))
  | some (.redis tier) => atServer index (RedisTier.put key value) tier world

-- What the suspending form of a get does when it acts.
def getLate (index : Nat) (key : Json) (world : World) : Lookup Json × World :=
  match world.state? index with
  | some (.redis tier) => atServer index (RedisTier.getAsync key) tier world
  | _ => world.get index key

def putLate (index : Nat) (key value : Json) (world : World) : Except CacheError Unit × World :=
  match world.state? index with
  | some (.redis tier) => atServer index (RedisTier.putAsync key value) tier world
  | _ => world.put index key value

def enter (index : Nat) (key : Json) (told : Lookup Json) (world : World) : Lookup Json × World :=
  match world.state? index with
  | some (.memory memory) =>
    let (answer, later) := Memory.enter key told memory
    (answer, world.setState index (.memory later))
  | _ => (told, world)

def getWaits (world : World) (index : Nat) : Nat :=
  match world.state? index with
  | some (.scripted scripted) => scripted.getWaits
  | some (.redis tier) => (world.server tier.endpoint).delay
  | some (.memory _) | none => 0

def putWaits (world : World) (index : Nat) : Nat :=
  match world.state? index with
  | some (.scripted scripted) => scripted.putWaits
  | some (.redis tier) => (world.server tier.endpoint).delay
  | some (.memory _) | none => 0

def compute (ref : TierRef) (key : Json) (world : World) : Consult World Json :=
  let noted := world.noteAt ref.index (.called .compute ref.name)
  match world.state? ref.index with
  | none => .answer (.ok none) world
  | some (.memory memory) =>
    match memory.find? key with
    | some value => .answer (.ok (some value)) noted
    | none => .ask (enter ref.index key) noted
  | some (.redis _) => Tier.getThenPut (get ref.index) (put ref.index) key noted
  | some (.scripted scripted) =>
    match scripted.manner with
    | .usual =>
      Tier.getThenPut
        (fun key world => world.noteAt ref.index (.called .get ref.name) |>.get ref.index key)
        (fun key value world => world.noteAt ref.index (.called .put ref.name) |>.put ref.index key value)
        key world
    | .skip => .answer (.ok none) noted
    | manner => .ask (fun told world => (Scripted.afterOrigin ref.name manner told, world)) noted

def tier (ref : TierRef) : Tier World Json Json where
  name := ref.name
  get := fun key world => (world.noteAt ref.index (.called .get ref.name)).get ref.index key
  put := fun key value world =>
    (world.noteAt ref.index (.called .put ref.name)).put ref.index key value
  computeIfAbsent := compute ref
  getAsync := fun key world =>
    Job.after (world.getWaits ref.index)
      (fun world =>
        let (answer, world) := world.getLate ref.index key
        (answer, world.noteAt ref.index (.ended .get ref.name)))
      (world.noteAt ref.index (.started .get ref.name))
  putAsync := fun key value world =>
    Job.after (world.putWaits ref.index)
      (fun world =>
        let (answer, world) := world.putLate ref.index key value
        (answer, world.noteAt ref.index (.ended .put ref.name)))
      (world.noteAt ref.index (.started .put ref.name))

def drain (world : World) : List Entry × World := (world.journal, { world with journal := [] })

def drainLogs (world : World) : Table Redis.Endpoint (List Redis.LogEntry) × World :=
  (world.servers.mapValues Redis.Server.log,
    { world with servers := world.servers.mapValues Redis.Server.forget })

end World

end CacheTiers
