import CacheTiers.Proofs.Redis.Private

namespace CacheTiers

namespace Redis.Server

structure Serves (stored : Table String (List UInt8)) (server : Server) : Prop where
  reachable : server.reachable = true
  answering : server.script = []
  stored : server.stored = stored

variable {stored : Table String (List UInt8)} {server : Server}

theorem accept_serves (serves : Serves stored server) : server.accept.1 = true ∧ Serves stored server.accept.2 := by
  rw [accept, if_pos serves.reachable]
  exact ⟨rfl, serves.reachable, serves.answering, serves.stored⟩

theorem execute_get_serves (serves : Serves stored server) (key : String) :
    (server.execute (.get key)).1 = .ok (stored.find? key) ∧ Serves stored (server.execute (.get key)).2 := by
  rw [execute_answering server _ serves.answering, if_pos serves.reachable, ← serves.stored]
  exact ⟨rfl, serves.reachable, by rw [perform, logged, serves.answering]; rfl, rfl⟩

theorem execute_set_serves (serves : Serves stored server) (key : String) (value : List UInt8) :
    (server.execute (.set key value)).1 = .ok none ∧
      Serves (stored.insert key value) (server.execute (.set key value)).2 := by
  rw [execute_answering server _ serves.answering, if_pos serves.reachable, ← serves.stored]
  exact ⟨rfl, serves.reachable, by rw [perform, logged, serves.answering]; rfl, rfl⟩

theorem execute_set_ex_serves (serves : Serves stored server) (key : String) (seconds : Nat) (value : List UInt8) :
    (server.execute (.setEx key seconds value)).1 = .ok none ∧
      Serves (stored.insert key value) (server.execute (.setEx key seconds value)).2 := by
  rw [execute_answering server _ serves.answering, if_pos serves.reachable, ← serves.stored]
  exact ⟨rfl, serves.reachable, by rw [perform, logged, serves.answering]; rfl, rfl⟩

end Redis.Server

namespace RedisTier

open Redis (Command Server)

variable {stored later : Table String (List UInt8)} {server : Server}

def unlinked (tier : RedisTier) : RedisTier := { tier with connected := false, attached := false }

theorem command_unlinked (command : Command) (tier : RedisTier) (server : Server) :
    (RedisTier.command command tier server).2.1.unlinked = tier.unlinked := by
  simp only [RedisTier.command]
  rcases (if tier.connected then (true, server) else server.accept) with ⟨linked, opened⟩
  cases linked with
  | false => rfl
  | true =>
      rcases opened.execute command with ⟨answer, after⟩
      simp only [if_true]
      cases answer with
      | ok answer => rfl
      | error trouble => rfl

theorem command_async_unlinked (verb : String) (command : Command) (tier : RedisTier) (server : Server) :
    (commandAsync verb command tier server).2.1.unlinked = tier.unlinked := by
  simp only [commandAsync]
  rcases (if tier.attached then (true, server) else server.accept) with ⟨linked, opened⟩
  cases linked with
  | false => rfl
  | true =>
      rcases opened.execute command with ⟨answer, after⟩
      simp only [if_true]
      cases answer with
      | ok answer => rfl
      | error trouble => rfl

theorem opened_serves (isOpen : Bool) (serves : server.Serves stored) :
    ∃ opened : Server, (if isOpen then (true, server) else server.accept) = (true, opened) ∧ opened.Serves stored := by
  cases isOpen with
  | true => exact ⟨server, rfl, serves⟩
  | false =>
      obtain ⟨accepted, opened⟩ := Server.accept_serves serves
      exact ⟨server.accept.2, Prod.ext accepted rfl, opened⟩

theorem command_serves (command : Command) (tier : RedisTier) (answer : Option (List UInt8))
    (serves : server.Serves stored)
    (executed : ∀ opened : Server, opened.Serves stored →
      (opened.execute command).1 = .ok answer ∧ (opened.execute command).2.Serves later) :
    (RedisTier.command command tier server).1 = .ok answer ∧
      (RedisTier.command command tier server).2.2.Serves later := by
  obtain ⟨opened, linked, serves⟩ := opened_serves tier.connected serves
  obtain ⟨answered, after⟩ := executed opened serves
  have ran : opened.execute command = (.ok answer, (opened.execute command).2) := Prod.ext answered rfl
  simp only [RedisTier.command, linked, if_true]
  rw [ran]
  exact ⟨rfl, after⟩

theorem command_async_serves (verb : String) (command : Command) (tier : RedisTier) (answer : Option (List UInt8))
    (serves : server.Serves stored)
    (executed : ∀ opened : Server, opened.Serves stored →
      (opened.execute command).1 = .ok answer ∧ (opened.execute command).2.Serves later) :
    (commandAsync verb command tier server).1 = .ok answer ∧
      (commandAsync verb command tier server).2.2.Serves later := by
  obtain ⟨opened, linked, serves⟩ := opened_serves tier.attached serves
  obtain ⟨answered, after⟩ := executed opened serves
  have ran : opened.execute command = (.ok answer, (opened.execute command).2) := Prod.ext answered rfl
  simp only [commandAsync, linked, if_true]
  rw [ran]
  exact ⟨rfl, after⟩

theorem unlinked_settings {tier other : RedisTier} (same : tier.unlinked = other.unlinked) :
    tier.endpoint = other.endpoint ∧ tier.keyPrefix = other.keyPrefix ∧ tier.valueType = other.valueType := by
  have endpoints := congrArg RedisTier.endpoint same
  have prefixes := congrArg RedisTier.keyPrefix same
  have types := congrArg RedisTier.valueType same
  exact ⟨endpoints, prefixes, types⟩

theorem decode_unlinked {tier other : RedisTier} (same : tier.unlinked = other.unlinked)
    (answer : Except CacheError (Option (List UInt8))) : tier.decode answer = other.decode answer := by
  simp only [decode, (unlinked_settings same).2.2]

theorem put_command_serves (tier : RedisTier) (key value : Json) (opened : Server) (serves : opened.Serves stored) :
    (opened.execute (tier.putCommand key value)).1 = .ok none ∧
      (opened.execute (tier.putCommand key value)).2.Serves
        (stored.insert (serverKey tier.keyPrefix key) (serialize value)) := by
  rw [putCommand]
  split
  · exact Server.execute_set_ex_serves serves _ _ _
  · exact Server.execute_set_serves serves _ _

section Calls

variable (key value : Json) (tier : RedisTier)

theorem get_serves (serves : server.Serves stored) :
    (get key tier server).1 = tier.decode (.ok (stored.find? (serverKey tier.keyPrefix key))) ∧
      (get key tier server).2.2.Serves stored := by
  obtain ⟨answered, after⟩ := command_serves (tier.getCommand key) tier _ serves
    fun opened serves => Server.execute_get_serves serves (serverKey tier.keyPrefix key)
  refine ⟨?_, after⟩
  rw [← answered]
  exact decode_unlinked (command_unlinked _ tier server) _

theorem get_async_serves (serves : server.Serves stored) :
    (getAsync key tier server).1 = tier.decode (.ok (stored.find? (serverKey tier.keyPrefix key))) ∧
      (getAsync key tier server).2.2.Serves stored := by
  obtain ⟨answered, after⟩ := command_async_serves "GET" (tier.getCommand key) tier _ serves
    fun opened serves => Server.execute_get_serves serves (serverKey tier.keyPrefix key)
  refine ⟨?_, after⟩
  rw [← answered]
  exact decode_unlinked (command_async_unlinked "GET" _ tier server) _

theorem put_serves (serves : server.Serves stored) :
    (put key value tier server).1 = .ok () ∧
      (put key value tier server).2.2.Serves (stored.insert (serverKey tier.keyPrefix key) (serialize value)) := by
  obtain ⟨answered, after⟩ :=
    command_serves (tier.putCommand key value) tier none serves (put_command_serves tier key value)
  exact ⟨congrArg (Except.map fun _ => ()) answered, after⟩

theorem put_async_serves (serves : server.Serves stored) :
    (putAsync key value tier server).1 = .ok () ∧
      (putAsync key value tier server).2.2.Serves (stored.insert (serverKey tier.keyPrefix key) (serialize value)) := by
  obtain ⟨answered, after⟩ :=
    command_async_serves "SET" (tier.putCommand key value) tier none serves (put_command_serves tier key value)
  exact ⟨congrArg (Except.map fun _ => ()) answered, after⟩

end Calls

end RedisTier

end CacheTiers
