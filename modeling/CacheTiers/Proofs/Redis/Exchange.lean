import CacheTiers.Proofs.Redis.Served

namespace CacheTiers

namespace Redis

-- What keeps a server from answering the next command, if anything does.
def Server.trouble? (server : Server) : Option Trouble :=
  if server.reachable then
    match server.script.head?.getD .normal with
    | .normal => none
    | .close => some .closed
    | .hang => some .silent
    | .refuse text => some (.refused text)
  else some .unreachable

structure Exchange where
  command : Command
  before : Server
  after : Server

namespace Exchange

def answered (exchange : Exchange) : Bool := exchange.before.trouble?.isNone

def Opens (exchange : Exchange) : Prop :=
  exchange.after.log = exchange.before.log ++ [.connect, .sent exchange.command]

def Reuses (exchange : Exchange) : Prop := exchange.after.log = exchange.before.log ++ [.sent exchange.command]

instance (exchange : Exchange) : Decidable exchange.Opens := inferInstanceAs (Decidable (_ = _))

-- An exchange of a tier that holds a connection beforehand, or does not.
structure Orderly (holding : Bool) (exchange : Exchange) : Prop where
  opens : exchange.before.reachable = true → holding = false → exchange.Opens
  reuses : exchange.before.reachable = true → holding = true → exchange.Reuses
  down : exchange.before.reachable = false → exchange.after = exchange.before

theorem opens_not_reuses (exchange : Exchange) (reuses : exchange.Reuses) : ¬ exchange.Opens := by
  intro opens
  have sizes := congrArg List.length (reuses.symm.trans opens)
  simp at sizes

theorem opens_iff {holding : Bool} {exchange : Exchange} (orderly : exchange.Orderly holding) :
    exchange.Opens ↔ exchange.before.reachable = true ∧ holding = false := by
  cases reachable : exchange.before.reachable with
  | false =>
      have same := orderly.down reachable
      simp [Opens, same]
  | true =>
      cases holding with
      | false => exact ⟨fun _ => ⟨rfl, rfl⟩, fun _ => orderly.opens reachable rfl⟩
      | true => simpa using opens_not_reuses exchange (orderly.reuses reachable rfl)

theorem reuses_iff {holding : Bool} {exchange : Exchange} (orderly : exchange.Orderly holding) :
    exchange.Reuses ↔ exchange.before.reachable = true ∧ holding = true := by
  cases reachable : exchange.before.reachable with
  | false =>
      have same := orderly.down reachable
      simp [Reuses, same]
  | true =>
      cases holding with
      | false => simpa using fun reuses => opens_not_reuses exchange reuses (orderly.opens reachable rfl)
      | true => exact ⟨fun _ => ⟨rfl, rfl⟩, fun _ => orderly.reuses reachable rfl⟩

theorem reachable_of_answered {exchange : Exchange} (answered : exchange.answered = true) :
    exchange.before.reachable = true := by
  rw [Exchange.answered, Server.trouble?] at answered
  by_cases reachable : exchange.before.reachable = true
  · exact reachable
  · rw [if_neg reachable] at answered
    nomatch answered

-- Whether a connection is left by exchanges, newest first: by the last one alone, if it was answered.
def held (trail : List Exchange) : Bool := trail.head?.any answered

theorem held_iff (trail : List Exchange) (connected : Bool) :
    held trail = connected ↔ if connected then ∃ last ∈ trail.head?, last.answered = true
      else ∀ last ∈ trail.head?, last.answered = false := by
  cases trail with
  | nil => cases connected <;> simp [held]
  | cons last earlier => cases connected <;> simp [held]

def Disciplined : List Exchange → Prop
  | [] => True
  | exchange :: earlier => exchange.Orderly (held earlier) ∧ Disciplined earlier

theorem disciplined_orderly {trail earlier : List Exchange} {exchange : Exchange} (disciplined : Disciplined trail)
    (among : exchange :: earlier <:+ trail) : exchange.Orderly (held earlier) := by
  induction trail with
  | nil => cases List.suffix_nil.mp among
  | cons last before ih =>
      rcases List.suffix_cons_iff.mp among with same | further
      · cases same
        exact disciplined.1
      · exact ih disciplined.2 further

-- How many connections were opened, and how many were lost: one that a command went over which was not answered.
def opened (trail : List Exchange) : Nat := trail.countP fun exchange => decide exchange.Opens

def lost : List Exchange → Nat
  | [] => 0
  | exchange :: earlier =>
    lost earlier + if exchange.answered = false ∧ (held earlier = true ∨ exchange.Opens) then 1 else 0

theorem opened_eq_lost (trail : List Exchange) (disciplined : Disciplined trail) :
    opened trail = lost trail + if held trail then 1 else 0 := by
  induction trail with
  | nil => rfl
  | cons exchange earlier ih =>
      have before := ih disciplined.2
      have opens := opens_iff disciplined.1
      rw [opened] at before ⊢
      rw [List.countP_cons, before, lost]
      change _ = _ + if exchange.answered then 1 else 0
      cases holding : held earlier with
      | true =>
          have stays : ¬ exchange.Opens := by simp [opens, holding]
          cases ends : exchange.answered <;> simp [stays]
      | false =>
          cases ends : exchange.answered with
          | true =>
              have reached := opens.mpr ⟨reachable_of_answered ends, holding⟩
              simp [reached]
          | false => by_cases fresh : exchange.Opens <;> simp [fresh]

end Exchange

namespace Server

theorem execute_eq (server : Server) (command : Command) :
    server.execute command =
      match server.trouble? with
      | none => (.ok ((server.logged command).perform command).1, ((server.logged command).perform command).2)
      | some trouble => (.error trouble, if server.reachable then server.logged command else server) := by
  rw [execute, trouble?]
  by_cases reachable : server.reachable = true
  · simp only [if_pos reachable]
    cases server.script.head?.getD .normal with
    | normal => rfl
    | close => rfl
    | hang => rfl
    | refuse text => rfl
  · simp only [if_neg reachable]

theorem perform_log (server : Server) (command : Command) : (server.perform command).2.log = server.log := by
  cases command <;> rfl

end Server

end Redis

namespace RedisTier

open Redis (Command Exchange Server)

theorem new_unconnected (name : String) (setup : RedisSetup) (valueType : ValueType) (tier : RedisTier)
    (made : RedisTier.new name setup valueType = .ok tier) : tier.connected = false := by
  rw [RedisTier.new] at made
  split at made
  · cases made
  · cases made
    rfl

def connect (tier : RedisTier) (server : Server) : Server := if tier.connected then server else server.accept.2

theorem connect_eq (tier : RedisTier) (server : Server) (reachable : server.reachable = true) :
    tier.connect server =
      { server with log := server.log ++ if tier.connected then [] else [.connect] } := by
  rw [connect, Server.accept, if_pos reachable]
  cases tier.connected with
  | true => simp
  | false => rfl

theorem command_down (command : Command) (tier : RedisTier) (server : Server) (down : server.reachable = false) :
    RedisTier.command command tier server =
      (.error (tier.troubleError .unreachable), { tier with connected := false }, server) := by
  have executed : server.execute command = (.error .unreachable, server) := by simp [Server.execute, down]
  rw [RedisTier.command, Server.accept, down]
  cases tier.connected with
  | true => simp only [if_true, executed]
  | false => rfl

theorem command_eq (command : Command) (tier : RedisTier) (server : Server) :
    RedisTier.command command tier server =
      match server.trouble? with
      | none =>
        let (answer, after) := ((tier.connect server).logged command).perform command
        (.ok answer, { tier with connected := true }, after)
      | some trouble =>
        (.error (tier.troubleError trouble), { tier with connected := false },
          if server.reachable then (tier.connect server).logged command else server) := by
  by_cases reachable : server.reachable = true
  · have linked : (if tier.connected then (true, server) else server.accept) = (true, tier.connect server) := by
      rw [connect, Server.accept, if_pos reachable]
      split <;> rfl
    have troubles : (tier.connect server).trouble? = server.trouble? := by
      rw [connect_eq tier server reachable]
      rfl
    have reached : (tier.connect server).reachable = true := by
      rw [connect_eq tier server reachable]
      exact reachable
    simp only [RedisTier.command, linked, if_true, Server.execute_eq, troubles, reached, reachable]
    cases server.trouble? with
    | none => rfl
    | some trouble => rfl
  · have trouble : server.trouble? = some .unreachable := by rw [Server.trouble?, if_neg reachable]
    rw [command_down command tier server (Bool.eq_false_iff.mpr reachable), trouble]
    simp only [if_neg reachable]

def exchange (command : Command) (tier : RedisTier) (server : Server) : Exchange :=
  ⟨command, server, (RedisTier.command command tier server).2.2⟩

theorem command_linked (command : Command) (tier : RedisTier) (server : Server) :
    (RedisTier.command command tier server).2.1 = { tier with connected := (exchange command tier server).answered } := by
  rw [Exchange.answered, exchange, command_eq]
  cases server.trouble? with
  | none => rfl
  | some trouble => rfl

theorem command_log (command : Command) (tier : RedisTier) (server : Server) (reachable : server.reachable = true) :
    (RedisTier.command command tier server).2.2.log =
      server.log ++ (if tier.connected then [] else [.connect]) ++ [.sent command] := by
  rw [command_eq, connect_eq tier server reachable]
  cases server.trouble? with
  | none => exact Server.perform_log _ command
  | some trouble => simp only [if_pos reachable, Server.logged]

theorem exchange_orderly (command : Command) (tier : RedisTier) (server : Server) :
    (exchange command tier server).Orderly tier.connected where
  opens := by
    intro reachable without
    have grown := command_log command tier server reachable
    rw [without] at grown
    simpa [Exchange.Opens, exchange] using grown
  reuses := by
    intro reachable holding
    have grown := command_log command tier server reachable
    rw [holding] at grown
    simpa [Exchange.Reuses, exchange] using grown
  down := fun down => congrArg (fun ended => ended.2.2) (command_down command tier server down)

inductive Read (tier : RedisTier) (key : Json) (exchange : Exchange) : Lookup Json → Prop where
  | failed (text : String) (unanswered : exchange.answered = false) :
    Read tier key exchange (.error (.tier tier.name text))
  | absent (answered : exchange.answered = true)
    (stored : exchange.before.stored.find? (serverKey tier.keyPrefix key) = none) : Read tier key exchange (.ok none)
  | undecodable (bytes : List UInt8) (text : String) (answered : exchange.answered = true)
    (stored : exchange.before.stored.find? (serverKey tier.keyPrefix key) = some bytes)
    (refused : deserialize tier.valueType bytes = .error (.serialization text)) :
    Read tier key exchange (.error (.serialization text))
  | found (bytes : List UInt8) (value : Json) (answered : exchange.answered = true)
    (stored : exchange.before.stored.find? (serverKey tier.keyPrefix key) = some bytes)
    (decoded : deserialize tier.valueType bytes = .ok value) : Read tier key exchange (.ok (some value))

inductive Written (tier : RedisTier) (key value : Json) (exchange : Exchange) : Except CacheError Unit → Prop where
  | failed (text : String) (unanswered : exchange.answered = false) :
    Written tier key value exchange (.error (.tier tier.name text))
  | stored (answered : exchange.answered = true)
    (stored : exchange.after.stored =
      exchange.before.stored.insert (serverKey tier.keyPrefix key) (serialize value)) :
    Written tier key value exchange (.ok ())

theorem read_alike {now tier : RedisTier} {key : Json} {exchange : Exchange} {found : Lookup Json}
    (same : now.unlinked = tier.unlinked) (read : Read now key exchange found) : Read tier key exchange found := by
  have names := congrArg RedisTier.name same
  obtain ⟨_, prefixes, types⟩ := unlinked_settings same
  simp only [unlinked] at names
  cases read with
  | failed text unanswered =>
      rw [names]
      exact .failed text unanswered
  | absent answered stored => exact .absent answered (prefixes ▸ stored)
  | undecodable bytes text answered stored refused =>
      exact .undecodable bytes text answered (prefixes ▸ stored) (types ▸ refused)
  | found bytes value answered stored decoded => exact .found bytes value answered (prefixes ▸ stored) (types ▸ decoded)

theorem written_alike {now tier : RedisTier} {key value : Json} {exchange : Exchange} {done : Except CacheError Unit}
    (same : now.unlinked = tier.unlinked) (written : Written now key value exchange done) :
    Written tier key value exchange done := by
  have names := congrArg RedisTier.name same
  simp only [unlinked] at names
  cases written with
  | failed text unanswered =>
      rw [names]
      exact .failed text unanswered
  | stored answered stored => exact .stored answered ((unlinked_settings same).2.1 ▸ stored)

theorem trouble_error (tier : RedisTier) (trouble : Redis.Trouble) :
    ∃ text, tier.troubleError trouble = .tier tier.name text := by
  cases trouble <;> exact ⟨_, rfl⟩

theorem unanswered_of_trouble {command : Command} {tier : RedisTier} {server : Server} {trouble : Redis.Trouble}
    (troubled : server.trouble? = some trouble) : (exchange command tier server).answered = false := by
  rw [Exchange.answered, exchange, troubled]
  rfl

theorem answered_of_untroubled {command : Command} {tier : RedisTier} {server : Server}
    (untroubled : server.trouble? = none) : (exchange command tier server).answered = true := by
  rw [Exchange.answered, exchange, untroubled]
  rfl

theorem connect_stored (tier : RedisTier) (server : Server) : (tier.connect server).stored = server.stored := by
  rw [connect, Server.accept]
  split
  · rfl
  · split <;> rfl

theorem decode_read (key : Json) (tier : RedisTier) (exchange : Exchange) (answered : exchange.answered = true) :
    Read tier key exchange (tier.decode (.ok (exchange.before.stored.find? (serverKey tier.keyPrefix key)))) := by
  cases stored : exchange.before.stored.find? (serverKey tier.keyPrefix key) with
  | none => exact .absent answered stored
  | some bytes =>
      rw [decode]
      cases decoded : deserialize tier.valueType bytes with
      | ok value => exact .found bytes value answered stored decoded
      | error error =>
          obtain ⟨text, rfl⟩ : ∃ text, error = .serialization text := by
            rw [deserialize] at decoded
            split at decoded
            · cases decoded
            · exact ⟨_, (Except.error.inj decoded).symm⟩
          exact .undecodable bytes text answered stored decoded

theorem get_read (key : Json) (tier : RedisTier) (server : Server) :
    Read tier key (exchange (tier.getCommand key) tier server) (get key tier server).1 := by
  rw [get, command_eq]
  cases troubled : server.trouble? with
  | some trouble =>
      obtain ⟨text, names⟩ := trouble_error tier trouble
      simp only [decode, names]
      exact .failed text (unanswered_of_trouble troubled)
  | none =>
      have read := decode_read key tier (exchange (tier.getCommand key) tier server) (answered_of_untroubled troubled)
      simp only [exchange, ← connect_stored tier server] at read
      exact read

theorem put_written (key value : Json) (tier : RedisTier) (server : Server) :
    Written tier key value (exchange (tier.putCommand key value) tier server) (put key value tier server).1 := by
  cases troubled : server.trouble? with
  | some trouble =>
      obtain ⟨text, names⟩ := trouble_error tier trouble
      rw [put, command_eq, troubled]
      simp only [names]
      exact .failed text (unanswered_of_trouble troubled)
  | none =>
      have stored : (exchange (tier.putCommand key value) tier server).after.stored =
          server.stored.insert (serverKey tier.keyPrefix key) (serialize value) := by
        rw [exchange, command_eq, troubled, ← connect_stored tier server, putCommand]
        cases tier.ttl <;> rfl
      rw [put, command_eq, troubled]
      exact .stored (answered_of_untroubled troubled) stored

end RedisTier

end CacheTiers
