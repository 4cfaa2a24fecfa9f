import CacheTiers.Metrics.Text
import CacheTiers.Session.Step

namespace CacheTiers

-- The operation that a session is about. Without a descriptor the name, the tiers and the runtime are handed to the
-- resolution as they are, and nothing is timed.
structure Session where
  context : Context World
  name : String
  tiers : List TierRef
  keyType : ValueType
  keyParams : List String
  optional : Bool
  backfillRuntime : Bool
  descriptor : Option (Operation TierRef)

namespace Session

def elapsed : Float := 0

def act {A : Type} (action : World → A × World) (session : Session) : A × Session :=
  let (answer, context) := session.context.onWorld action
  (answer, { session with context })

def change (f : World → World) (session : Session) : Session :=
  { session with context := { session.context with world := f session.context.world } }

def originAction {A : Type} (given : A) (world : World) : A × World := (given, world.note .origin)

def originJob {A : Type} (given : A) (waits : Nat) : Job World A := fun world =>
  Job.after waits (fun world => (given, world.note .originEnded)) (world.note .originStarted)

def resolveWith {R : Type} (session : Session) (form : ResultForm Json R) (key : Json)
    (given : Except (Failure String) R) : Except (Failure String) R × Session :=
  let (result, context) := match session.descriptor with
    | some operation =>
      (operation.map World.tier).resolve form key (originAction given) elapsed session.context
    | none =>
      Resolve.blocking session.name form key (session.tiers.map World.tier) (originAction given)
        session.context
  (result, { session with context })

def jobWith {R : Type} (session : Session) (form : ResultForm Json R) (key : Json) (current : Bool)
    (origin : Job World (Except (Failure String) R)) :
    Job (Context World) (Resolve.Outcome World Json Json R String) :=
  match session.descriptor with
  | some operation => (operation.map World.tier).resolveAsync form key current origin elapsed
  | none =>
    Resolve.suspending session.name form key (session.tiers.map World.tier) session.backfillRuntime
      current origin

def awaitJob {R : Type} (polls : Option Nat) (shown : R → Shown)
    (job : Job (Context World) (Resolve.Outcome World Json Json R String)) (context : Context World) :
    Answer × Context World :=
  let (outcome, context) := match polls with
    | some polls => job.runFor polls context
    | none =>
      let (outcome, context) := job.run context
      (some outcome, context)
  match outcome with
  | some outcome =>
    let returned := { context with world := context.world.note .returned }
    (.resolved (outcome.result.map shown), Resolve.settleDispatched outcome.dispatched returned)
  | none => (.cancelled, { context with world := context.world.note .cancelled })

def ref (session : Session) (place : Nat) : TierRef := (session.tiers[place]?).getD ⟨place, ""⟩

def tierAt (session : Session) (place : Nat) : Tier World Json Json := World.tier (session.ref place)

def changeTier (place : Nat) (f : TierState → TierState) (session : Session) : Session :=
  let index := (session.ref place).index
  session.change fun world =>
    match world.state? index with
    | some state => world.setState index (f state)
    | none => world

def changeServer (place : Nat) (f : Redis.Server → Redis.Server) (session : Session) : Session :=
  session.change fun world =>
    match world.state? (session.ref place).index with
    | some (.redis tier) => world.setServer tier.endpoint (f (world.server tier.endpoint))
    | _ => world

def stateAt (session : Session) (place : Nat) : Option TierState :=
  session.context.world.state? (session.ref place).index

def step (session : Session) : Step → Answer × Session
  | .resolve key origin =>
    if session.optional then
      let (result, session) := session.resolveWith .optional key origin.given.asOptional
      (.resolved (result.map Shown.ofOption), session)
    else
      let (result, session) := session.resolveWith .plain key origin.given.asPlain
      (.resolved (result.map Shown.value), session)
  | .resolveAsync key origin current polls =>
    let (answer, context) :=
      if session.optional then
        awaitJob polls Shown.ofOption
          (session.jobWith .optional key current (originJob origin.given.asOptional origin.waits))
          session.context
      else
        awaitJob polls Shown.value
          (session.jobWith .plain key current (originJob origin.given.asPlain origin.waits))
          session.context
    (answer, { session with context })
  | .spawnBackfill targets key value current =>
    let backfill := ⟨session.name, targets.map session.tierAt, key, value⟩
    let (dispatched, context) :=
      Resolve.dispatch session.backfillRuntime current backfill session.context
    let context := match dispatched with
      | some _ => { context with world := context.world.note .spawned }
      | none => context
    (.spawned dispatched.isSome, { session with context := Resolve.settleDispatched dispatched context })
  | .keyBuilder key =>
    (.key ((Key.Builder.new session.keyType.arity session.keyParams).map Key.Builder.params) key, session)
  | .get place key =>
    let (outcome, session) := session.act ((session.tierAt place).get key)
    (.looked outcome, session)
  | .getAsync place key =>
    let (outcome, session) := session.act ((session.tierAt place).getAsync key).run
    (.looked outcome, session)
  | .put place key value =>
    let (outcome, session) := session.act ((session.tierAt place).put key value)
    (.written outcome, session)
  | .putAsync place key value =>
    let (outcome, session) := session.act ((session.tierAt place).putAsync key value).run
    (.written outcome, session)
  | .compute place key origin =>
    let (outcome, session) := session.act fun world =>
      ((session.tierAt place).computeIfAbsent key world).run (originAction origin.given.asLookup)
    (.looked outcome, session)
  | .contains place key =>
    let found := match session.stateAt place with
      | some (.memory memory) => memory.contains key
      | _ => false
    (.contains found, session)
  | .invalidate place key =>
    (.written (.ok ()), session.changeTier place fun
      | .memory memory => .memory (memory.invalidate key)
      | state => state)
  | .clear place =>
    (.written (.ok ()), session.changeTier place fun
      | .memory memory => .memory memory.clear
      | state => state)
  | .seed place key value =>
    (.written (.ok ()), session.changeTier place fun
      | .scripted scripted => .scripted { scripted with entries := scripted.entries.insert key value }
      | state => state)
  | .setGetFault place fault =>
    (.written (.ok ()), session.changeTier place fun
      | .scripted scripted => .scripted { scripted with getFault := fault }
      | state => state)
  | .setPutFault place fault =>
    (.written (.ok ()), session.changeTier place fun
      | .scripted scripted => .scripted { scripted with putFault := fault }
      | state => state)
  | .describeKey place key =>
    match session.stateAt place with
    | some (.redis tier) => (.keyText (RedisTier.serverKey tier.keyPrefix key) tier.describe, session)
    | _ => (.none, session)
  | .storeBytes place key bytes =>
    (.written (.ok ()), session.changeServer place fun server =>
      { server with stored := server.stored.insert key bytes })
  | .script place replies =>
    (.written (.ok ()), session.changeServer place fun server =>
      { server with script := server.script ++ replies })
  | .metrics => (.snapshot session.context.metrics.snapshot, session)
  | .render => (.lines session.context.metrics.untimedLines, session)
  | .enableMetrics on =>
    (.enabled on, { session with
      context := { session.context with metrics := session.context.metrics.setEnabled on } })

inductive Contents where
  | entries (entries : List (Json × Json))
  | stored (entries : List (String × String))

def sortedEntries (table : Table Json Json) : List (Json × Json) :=
  table.entries.mergeSort fun a b => a.1.render ≤ b.1.render

def sortedTexts (server : Redis.Server) : List (String × String) :=
  (server.stored.entries.mergeSort fun a b => a.1 ≤ b.1).map fun entry =>
    (entry.1, String.ofList (Text.decodeLossy entry.2))

def contentsOf (world : World) : TierState → Contents
  | .memory memory => .entries (sortedEntries memory.entries)
  | .scripted scripted => .entries (sortedEntries scripted.entries)
  | .redis tier => .stored (sortedTexts (world.server tier.endpoint))

structure Report where
  answer : Answer
  trace : List Entry
  contents : List (String × Contents)
  logs : List (String × List Redis.LogEntry)

def observe (session : Session) (step : Step) : Report × Session :=
  let (answer, session) := session.step step
  let world := session.context.world
  let (trace, world) := world.drain
  let (logs, world) := world.drainLogs
  let states := session.tiers.filterMap fun ref => (world.state? ref.index).map fun state => (ref.name, state)
  let report : Report :=
    { answer
      trace
      contents := states.map fun entry => (entry.1, contentsOf world entry.2)
      logs := states.filterMap fun entry =>
        match entry.2 with
        | .redis tier => some (entry.1, (logs.find? tier.endpoint).getD [])
        | _ => none }
  (report, { session with context := { session.context with world } })

def run (session : Session) : List Step → List Report × Session
  | [] => ([], session)
  | step :: rest =>
    let (report, session) := session.observe step
    let (reports, session) := session.run rest
    (report :: reports, session)

end Session

end CacheTiers
