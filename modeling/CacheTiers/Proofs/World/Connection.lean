import CacheTiers.Proofs.Redis.Exchange
import CacheTiers.Proofs.World.TypedMap

namespace CacheTiers

open Redis (Exchange)

inductive BlockingCall (index : Nat) where
  | get (key : Json)
  | put (key value : Json)
  | compute (key : Json) (callback : Callback index)

-- What happens around a tier: a call to it, or anything that leaves it alone. Servers may come and go.
inductive Happening (index : Nat) where
  | call (call : BlockingCall index)
  | meanwhile (change : World → World) (aside : ∀ world, (change world).state? index = world.state? index)

namespace BlockingCall

open TierCall (Report)

-- A call that has ended, with its exchanges, newest first. Where a callback told of nothing to store, `idle` has the
-- server before and after this was taken in.
structure Ended (index : Nat) where
  call : BlockingCall index
  exchanges : List Exchange
  idle : Option (Redis.Server × Redis.Server)
  report : Report

def asked (ref : TierRef) (tier : RedisTier) (key : Json) (callback : Callback ref.index)
    (resume : Lookup Json → World → Lookup Json × World) (first : Exchange) (world : World) :
    Ended ref.index × World :=
  let (told, left) := callback.ask world
  let (found, last) := resume told left
  match told with
  | .ok (some value) =>
    (⟨compute key callback,
      [⟨tier.putCommand key value, left.server tier.endpoint, last.server tier.endpoint⟩, first], none,
      .computed (some told) found⟩, last)
  | told =>
    (⟨compute key callback, [first], some (left.server tier.endpoint, last.server tier.endpoint),
      .computed (some told) found⟩, last)

def run (ref : TierRef) (tier : RedisTier) : BlockingCall ref.index → World → Ended ref.index × World
  | get key, world =>
    let (found, after) := (World.tier ref).get key world
    (⟨get key, [⟨tier.getCommand key, world.server tier.endpoint, after.server tier.endpoint⟩], none, .read found⟩, after)
  | put key value, world =>
    let (done, after) := (World.tier ref).put key value world
    (⟨put key value, [⟨tier.putCommand key value, world.server tier.endpoint, after.server tier.endpoint⟩], none,
      .wrote done⟩, after)
  | compute key callback, world =>
    match (World.tier ref).computeIfAbsent key world with
    | .answer found after =>
      (⟨compute key callback, [⟨tier.getCommand key, world.server tier.endpoint, after.server tier.endpoint⟩], none,
        .computed none found⟩, after)
    | .ask resume after =>
      asked ref tier key callback resume
        ⟨tier.getCommand key, world.server tier.endpoint, after.server tier.endpoint⟩ after

def runAll (ref : TierRef) (tier : RedisTier) :
    List (Happening ref.index) → World → List (Ended ref.index) × World
  | [], world => ([], world)
  | .call call :: rest, world =>
    let (ended, world) := call.run ref tier world
    let (later, world) := runAll ref tier rest world
    (ended :: later, world)
  | .meanwhile change _ :: rest, world => runAll ref tier rest (change world)

def trail {index : Nat} : List (Ended index) → List Exchange
  | [] => []
  | ended :: later => trail later ++ ended.exchanges

inductive Ends (tier : RedisTier) {index : Nat} : Ended index → Prop where
  | get (key : Json) (exchange : Exchange) (found : Lookup Json) (sent : exchange.command = tier.getCommand key)
    (read : tier.Read key exchange found) : Ends tier ⟨get key, [exchange], none, .read found⟩
  | put (key value : Json) (exchange : Exchange) (done : Except CacheError Unit)
    (sent : exchange.command = tier.putCommand key value) (written : tier.Written key value exchange done) :
    Ends tier ⟨put key value, [exchange], none, .wrote done⟩
  | known (key : Json) (callback : Callback index) (exchange : Exchange) (found : Lookup Json)
    (sent : exchange.command = tier.getCommand key) (read : tier.Read key exchange found) (known : found ≠ .ok none) :
    Ends tier ⟨compute key callback, [exchange], none, .computed none found⟩
  | told (key : Json) (callback : Callback index) (exchange : Exchange) (told : Lookup Json) (server : Redis.Server)
    (sent : exchange.command = tier.getCommand key) (read : tier.Read key exchange (.ok none))
    (without : ∀ value, told ≠ .ok (some value)) :
    Ends tier ⟨compute key callback, [exchange], some (server, server), .computed (some told) told⟩
  | kept (key : Json) (callback : Callback index) (exchange later : Exchange) (value : Json)
    (sent : exchange.command = tier.getCommand key) (read : tier.Read key exchange (.ok none))
    (stored : later.command = tier.putCommand key value) (written : tier.Written key value later (.ok ())) :
    Ends tier ⟨compute key callback, [later, exchange], none, .computed (some (.ok (some value))) (.ok (some value))⟩
  | lost (key : Json) (callback : Callback index) (exchange later : Exchange) (value : Json) (error : CacheError)
    (sent : exchange.command = tier.getCommand key) (read : tier.Read key exchange (.ok none))
    (stored : later.command = tier.putCommand key value) (written : tier.Written key value later (.error error)) :
    Ends tier ⟨compute key callback, [later, exchange], none, .computed (some (.ok (some value))) (.error error)⟩

def Holding (tier : RedisTier) (index : Nat) (connected : Bool) (world : World) : Prop :=
  ∃ attached, world.state? index = some (.redis { tier with connected, attached })

section Steps

variable {tier : RedisTier} {index : Nat} {connected : Bool} {world : World}

theorem holding_of_state (after : World) (same : after.state? index = world.state? index)
    (holding : Holding tier index connected world) : Holding tier index connected after := by
  obtain ⟨attached, read⟩ := holding
  exact ⟨attached, same.trans read⟩

-- What one command comes to: an exchange in order, after which there is a connection if it was answered.
structure Exchanged (tier : RedisTier) (index : Nat) (connected : Bool) (exchange : Exchange) (after : World) : Prop where
  orderly : exchange.Orderly connected
  holding : Holding tier index exchange.answered after

theorem at_server_exchanged {A : Type} (call : RedisTier → Redis.Server → A × RedisTier × Redis.Server)
    (command : Redis.Command) (now : RedisTier) (read : world.state? index = some (.redis now))
    (sends : ∀ server, (call now server).2 = (RedisTier.command command now server).2) :
    let after := (World.atServer index call now world).2
    ⟨command, world.server now.endpoint, after.server now.endpoint⟩ =
        RedisTier.exchange command now (world.server now.endpoint) ∧
      after.state? index = some (.redis { now with
        connected := (RedisTier.exchange command now (world.server now.endpoint)).answered }) := by
  intro after
  refine ⟨?_, ?_⟩
  · have server : (World.atServer index call now world).2.server now.endpoint = _ := World.at_server_server call index now
    rw [sends] at server
    exact congrArg (Exchange.mk command _) server
  · rw [← RedisTier.command_linked, ← sends]
    exact World.set_state_here index _ _ world read

theorem get_exchanged (key : Json) (holding : Holding tier index connected world) :
    let exchange : Exchange :=
      ⟨tier.getCommand key, world.server tier.endpoint, (world.get index key).2.server tier.endpoint⟩
    tier.Read key exchange (world.get index key).1 ∧ Exchanged tier index connected exchange (world.get index key).2 := by
  obtain ⟨attached, read⟩ := holding
  let now : RedisTier := { tier with connected, attached }
  have alike : now.unlinked = tier.unlinked := rfl
  have ran : world.get index key = World.atServer index (RedisTier.get key) now world := by rw [World.get, read]
  obtain ⟨same, linked⟩ := at_server_exchanged (RedisTier.get key) (tier.getCommand key) now read fun _ => rfl
  rw [ran]
  intro exchange
  have seen : exchange = RedisTier.exchange (now.getCommand key) now (world.server now.endpoint) := same
  rw [seen]
  refine ⟨?_, RedisTier.exchange_orderly _ now _, attached, linked⟩
  exact RedisTier.read_alike alike (RedisTier.get_read key now (world.server now.endpoint))

theorem put_exchanged (key value : Json) (holding : Holding tier index connected world) :
    let exchange : Exchange :=
      ⟨tier.putCommand key value, world.server tier.endpoint, (world.put index key value).2.server tier.endpoint⟩
    tier.Written key value exchange (world.put index key value).1 ∧
      Exchanged tier index connected exchange (world.put index key value).2 := by
  obtain ⟨attached, read⟩ := holding
  let now : RedisTier := { tier with connected, attached }
  have alike : now.unlinked = tier.unlinked := rfl
  have ran : world.put index key value = World.atServer index (RedisTier.put key value) now world := by
    rw [World.put, read]
  obtain ⟨same, linked⟩ := at_server_exchanged (RedisTier.put key value) (tier.putCommand key value) now read fun _ => rfl
  rw [ran]
  intro exchange
  have seen : exchange = RedisTier.exchange (now.putCommand key value) now (world.server now.endpoint) := same
  rw [seen]
  refine ⟨?_, RedisTier.exchange_orderly _ now _, attached, linked⟩
  exact RedisTier.written_alike alike (RedisTier.put_written key value now (world.server now.endpoint))

theorem noted_holding (place : Nat) (entry : Entry) (holding : Holding tier index connected world) :
    Holding tier index connected (world.noteAt place entry) :=
  holding_of_state _ (World.note_at_state place index entry world) holding

end Steps

section Runs

variable {tier : RedisTier} {ref : TierRef} {earlier : List Exchange} {world : World}

-- What a call keeps: the trail stays one of a tier that opens and drops its connection as it should, and tells whether
-- there is one.
structure Kept (tier : RedisTier) (ref : TierRef) (trail : List Exchange) (world : World) : Prop where
  disciplined : Redis.Exchange.Disciplined trail
  holding : Holding tier ref.index (Redis.Exchange.held trail) world

theorem exchanged_kept {exchange : Exchange} {after : World} (kept : Kept tier ref earlier world)
    (exchanged : Exchanged tier ref.index (Redis.Exchange.held earlier) exchange after) :
    Kept tier ref (exchange :: earlier) after :=
  ⟨⟨exchanged.orderly, kept.disciplined⟩, exchanged.holding⟩

theorem get_kept (key : Json) (verb : Verb) (kept : Kept tier ref earlier world) :
    let after := ((world.noteAt ref.index (.called verb ref.name)).get ref.index key)
    let exchange : Exchange := ⟨tier.getCommand key, world.server tier.endpoint, after.2.server tier.endpoint⟩
    tier.Read key exchange after.1 ∧ Kept tier ref (exchange :: earlier) after.2 := by
  intro after exchange
  have noted := noted_holding ref.index (.called verb ref.name) kept.holding
  obtain ⟨read, exchanged⟩ := get_exchanged key noted
  rw [World.note_at_server] at read exchanged
  exact ⟨read, exchanged_kept kept exchanged⟩

theorem asked_kept (key : Json) (callback : Callback ref.index) (exchange : Exchange) (after : World)
    (sent : exchange.command = tier.getCommand key) (read : tier.Read key exchange (.ok none))
    (kept : Kept tier ref (exchange :: earlier) after) :
    let rest := asked ref tier key callback (Tier.keep (World.put ref.index) key) exchange after
    Ends tier rest.1 ∧ Kept tier ref (rest.1.exchanges ++ earlier) rest.2 := by
  rcases gave : callback.ask after with ⟨told, left⟩
  have holding := holding_of_state left (by rw [← callback.aside after, gave]) kept.holding
  rcases told with error | _ | value
  · simp only [asked, gave, Tier.keep]
    exact ⟨.told key callback exchange _ _ sent read (by simp), kept.disciplined, holding⟩
  · simp only [asked, gave, Tier.keep]
    exact ⟨.told key callback exchange _ _ sent read (by simp), kept.disciplined, holding⟩
  · obtain ⟨written, exchanged⟩ := put_exchanged key value holding
    rcases put : left.put ref.index key value with ⟨done, last⟩
    rw [put] at written exchanged
    have later := exchanged_kept ⟨kept.disciplined, holding⟩ exchanged
    simp only [asked, gave, Tier.keep, put]
    rcases done with error | _
    · exact ⟨.lost key callback exchange _ value error sent read rfl written, later⟩
    · exact ⟨.kept key callback exchange _ value sent read rfl written, later⟩

theorem run_kept (call : BlockingCall ref.index) (kept : Kept tier ref earlier world) :
    Ends tier (call.run ref tier world).1 ∧
      Kept tier ref ((call.run ref tier world).1.exchanges ++ earlier) (call.run ref tier world).2 := by
  cases call with
  | get key =>
      obtain ⟨read, later⟩ := get_kept key .get kept
      exact ⟨.get key _ _ rfl read, later⟩
  | put key value =>
      have noted := noted_holding ref.index (.called .put ref.name) kept.holding
      obtain ⟨written, exchanged⟩ := put_exchanged key value noted
      rw [World.note_at_server] at written exchanged
      exact ⟨.put key value _ _ rfl written, exchanged_kept kept exchanged⟩
  | compute key callback =>
      obtain ⟨attached, here⟩ := kept.holding
      obtain ⟨read, later⟩ := get_kept key .compute kept
      rw [run, TierCall.compute_at_redis ref key _ here, Tier.getThenPut]
      rcases looked : (world.noteAt ref.index (.called .compute ref.name)).get ref.index key with ⟨found, after⟩
      rw [looked] at read later
      rcases found with error | _ | value
      · exact ⟨.known key callback _ _ rfl read (by simp), later⟩
      · exact asked_kept key callback _ after rfl read later
      · exact ⟨.known key callback _ _ rfl read (by simp), later⟩

theorem run_all_kept (happenings : List (Happening ref.index)) (kept : Kept tier ref earlier world) :
    let ran := runAll ref tier happenings world
    Kept tier ref (trail ran.1 ++ earlier) ran.2 ∧ ∀ ended ∈ ran.1, Ends tier ended := by
  -- By induction on what happens: each call continues the trail of those before it.
  induction happenings generalizing world earlier with
  | nil => exact ⟨kept, List.forall_mem_nil _⟩
  | cons happening rest ih =>
      cases happening with
      | meanwhile change aside => exact ih ⟨kept.disciplined, holding_of_state _ (aside world) kept.holding⟩
      | call call =>
          obtain ⟨ends, next⟩ := run_kept call kept
          obtain ⟨later, others⟩ := ih next
          simp only [runAll, trail, List.append_assoc]
          exact ⟨later, List.forall_mem_cons.mpr ⟨ends, others⟩⟩

-- After any calls to a tier, from when it was made: it holds a connection exactly if its last exchange was answered; a
-- command at a server that can be reached goes over a new connection exactly if it is the first or the one before was
-- not answered, else over the one that is held; one connection at most is opened and not lost; and each call ends as its
-- exchanges tell.
theorem blocking_connection_is_disciplined (ref : TierRef) (name : String) (setup : RedisSetup) (valueType : ValueType)
    (tier : RedisTier) (world : World) (happenings : List (Happening ref.index))
    (made : RedisTier.new name setup valueType = .ok tier) (here : world.state? ref.index = some (.redis tier)) :
    let ran := runAll ref tier happenings world
    let exchanges := trail ran.1
    let connected := Exchange.held exchanges
    (∃ attached, ran.2.state? ref.index = some (.redis { tier with connected, attached })) ∧
      (∀ exchange earlier, exchange :: earlier <:+ exchanges →
        (exchange.Opens ↔ exchange.before.reachable = true ∧ ∀ last ∈ earlier.head?, last.answered = false) ∧
          (exchange.Reuses ↔ exchange.before.reachable = true ∧ ∃ last ∈ earlier.head?, last.answered = true)) ∧
      Exchange.opened exchanges = Exchange.lost exchanges + (if connected then 1 else 0) ∧
      ∀ ended ∈ ran.1, Ends tier ended := by
  intro ran exchanges connected
  have fresh : tier.connected = false := RedisTier.new_unconnected name setup valueType tier made
  have unlinked := congrArg (fun connected => some (TierState.redis { tier with connected })) fresh
  have start : Kept tier ref [] world := ⟨trivial, tier.attached, here.trans unlinked⟩
  obtain ⟨kept, ends⟩ := run_all_kept happenings start
  rw [List.append_nil] at kept
  refine ⟨kept.holding, ?_, Exchange.opened_eq_lost exchanges kept.disciplined, ends⟩
  intro exchange earlier among
  have orderly := Exchange.disciplined_orderly kept.disciplined among
  refine ⟨?_, ?_⟩
  · rw [Exchange.opens_iff orderly, Exchange.held_iff]
    rfl
  · rw [Exchange.reuses_iff orderly, Exchange.held_iff]
    rfl

end Runs

def cacheSetup : RedisSetup := ⟨"redis://cache:1", none, some 60, 1000, 1000⟩

def cacheTier : RedisTier := ⟨"l2", "l2", some 60, .str, .tcp "cache" 1, false, false⟩

def cacheRef : TierRef := ⟨0, "l2"⟩

def closingServer : Redis.Server :=
  ⟨true, 0, .ofList [("l2:1", Text.encode "?".toList)], [.normal, .normal, .close], []⟩

def closingWorld : World := ⟨[⟨.redis cacheTier, true⟩], .ofList [(.tcp "cache" 1, closingServer)], []⟩

def giving (value : Json) : Callback 0 := ⟨fun world => (.ok (some value), world), fun _ => rfl⟩

def closingHappenings : List (Happening 0) :=
  [.call (.get (.int 1)), .call (.compute (.int 2) (giving (.str "b"))), .meanwhile id fun _ => rfl, .call (.get (.int 2))]

theorem lost_connection_is_opened_again :
    let ran := runAll cacheRef cacheTier closingHappenings closingWorld
    (∃ attached, ran.2.state? 0 = some (.redis { cacheTier with connected := true, attached })) ∧
      Exchange.opened (trail ran.1) = 2 ∧ ∀ ended ∈ ran.1, Ends cacheTier ended := by
  obtain ⟨linked, _, counted, ends⟩ := blocking_connection_is_disciplined cacheRef "l2" cacheSetup .str cacheTier
    closingWorld closingHappenings rfl rfl
  have held : Exchange.held (trail (runAll cacheRef cacheTier closingHappenings closingWorld).1) = true := by
    decide +kernel
  have lost : Exchange.lost (trail (runAll cacheRef cacheTier closingHappenings closingWorld).1) = 1 := by
    decide +kernel
  rw [held] at linked counted
  rw [lost] at counted
  exact ⟨linked, counted, ends⟩

end BlockingCall

end CacheTiers
