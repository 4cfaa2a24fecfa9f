import CacheTiers.Proofs.Redis.Served

namespace CacheTiers

namespace Redis

-- An entry by which nothing is kept for any other time than the given one.
inductive Timed (seconds : Nat) : LogEntry → Prop where
  | connect : Timed seconds .connect
  | get (key : String) : Timed seconds (.sent (.get key))
  | setEx (key : String) (value : List UInt8) : Timed seconds (.sent (.setEx key seconds value))

namespace Server

def Grown (among : LogEntry → Prop) (before after : Server) : Prop :=
  ∃ more, after.log = before.log ++ more ∧ ∀ entry ∈ more, among entry

variable {among wider : LogEntry → Prop} {first second third : Server}

theorem grown_of_same (same : second.log = first.log) : Grown among first second :=
  ⟨[], by rw [same, List.append_nil], List.forall_mem_nil _⟩

theorem grown_by (entry : LogEntry) (grown : second.log = first.log ++ [entry]) (member : among entry) :
    Grown among first second :=
  ⟨[entry], grown, List.forall_mem_singleton.mpr member⟩

theorem grown_trans (before : Grown among first second) (after : Grown among second third) :
    Grown among first third := by
  obtain ⟨more, grown, entries⟩ := before
  obtain ⟨further, longer, others⟩ := after
  exact ⟨more ++ further, by rw [longer, grown, List.append_assoc], List.forall_mem_append.mpr ⟨entries, others⟩⟩

theorem grown_mono (wide : ∀ entry, among entry → wider entry) (grown : Grown among first second) :
    Grown wider first second := by
  obtain ⟨more, longer, entries⟩ := grown
  exact ⟨more, longer, fun entry member => wide entry (entries entry member)⟩

theorem accept_grown (server : Server) (connects : among .connect) : Grown among server server.accept.2 := by
  rw [accept]
  split
  · exact grown_by .connect rfl connects
  · exact grown_of_same rfl

theorem execute_grown (server : Server) (command : Command) (sends : among (.sent command)) :
    Grown among server (server.execute command).2 := by
  rw [execute]
  split
  · refine grown_by (.sent command) ?_ sends
    dsimp only
    split
    · cases command <;> rfl
    · rfl
    · rfl
    · rfl
  · exact grown_of_same rfl

def carried (isOpen : Bool) (command : Command) (server : Server) : Server :=
  let (linked, after) := if isOpen then (true, server) else server.accept
  if linked then (after.execute command).2 else after

theorem carried_grown (isOpen : Bool) (server : Server) (command : Command) (connects : among .connect)
    (sends : among (.sent command)) : Grown among server (server.carried isOpen command) := by
  have opened : Grown among server (if isOpen then (true, server) else server.accept).2 := by
    cases isOpen with
    | true => exact grown_of_same rfl
    | false => exact accept_grown server connects
  rw [carried]
  rcases reached : (if isOpen then (true, server) else server.accept) with ⟨linked, after⟩
  rw [reached] at opened
  cases linked with
  | false => exact opened
  | true => exact grown_trans opened (execute_grown after command sends)

end Server

end Redis

namespace RedisTier

open Redis (Command LogEntry Server Timed)

inductive Enters (tier : RedisTier) : LogEntry → Prop where
  | connect : Enters tier .connect
  | get (key : Json) : Enters tier (.sent (tier.getCommand key))
  | put (key value : Json) : Enters tier (.sent (tier.putCommand key value))

theorem enters_unlinked {tier : RedisTier} {entry : LogEntry} (enters : tier.Enters entry) :
    tier.unlinked.Enters entry := by
  cases enters with
  | connect => exact .connect
  | get key => exact .get key
  | put key value => exact .put key value

section Calls

variable (command : Command) (tier : RedisTier) (server : Server)

theorem command_server : (RedisTier.command command tier server).2.2 = server.carried tier.connected command := by
  rw [RedisTier.command, Server.carried]
  rcases (if tier.connected then (true, server) else server.accept) with ⟨linked, reached⟩
  cases linked with
  | false => rfl
  | true => rcases executed : reached.execute command with ⟨trouble | answer, after⟩ <;> simp only [if_true, executed]

theorem command_async_server (verb : String) :
    (commandAsync verb command tier server).2.2 = server.carried tier.attached command := by
  rw [commandAsync, Server.carried]
  rcases (if tier.attached then (true, server) else server.accept) with ⟨linked, reached⟩
  cases linked with
  | false => rfl
  | true => rcases executed : reached.execute command with ⟨trouble | answer, after⟩ <;> simp only [if_true, executed]

theorem command_grown {among : LogEntry → Prop} (connects : among .connect) (sends : among (.sent command)) :
    server.Grown among (RedisTier.command command tier server).2.2 := by
  rw [command_server]
  exact Server.carried_grown _ server command connects sends

theorem command_async_grown {among : LogEntry → Prop} (verb : String) (connects : among .connect)
    (sends : among (.sent command)) : server.Grown among (commandAsync verb command tier server).2.2 := by
  rw [command_async_server]
  exact Server.carried_grown _ server command connects sends

theorem get_grown (key : Json) : server.Grown tier.Enters (get key tier server).2.2 :=
  command_grown _ tier server .connect (.get key)

theorem put_grown (key value : Json) : server.Grown tier.Enters (put key value tier server).2.2 :=
  command_grown _ tier server .connect (.put key value)

theorem get_async_grown (key : Json) : server.Grown tier.Enters (getAsync key tier server).2.2 :=
  command_async_grown _ tier server "GET" .connect (.get key)

theorem put_async_grown (key value : Json) : server.Grown tier.Enters (putAsync key value tier server).2.2 :=
  command_async_grown _ tier server "SET" .connect (.put key value)

end Calls

end RedisTier

end CacheTiers
