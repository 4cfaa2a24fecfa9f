import CacheTiers.Tier.Redis

namespace CacheTiers

namespace Redis

def Command.key : Command → String
  | .get key => key
  | .set key _ => key
  | .setEx key _ _ => key

namespace Server

structure Agree (texts : String → Prop) (server other : Server) : Prop where
  reachable : server.reachable = other.reachable
  delay : server.delay = other.delay
  answering : server.script = [] ∧ other.script = []
  stored : ∀ text, texts text → server.stored.find? text = other.stored.find? text

variable {texts : String → Prop}

theorem agree_refl (server : Server) (answering : server.script = []) : Agree texts server server :=
  ⟨rfl, rfl, ⟨answering, answering⟩, fun _ _ => rfl⟩

theorem agree_symm {first second : Server} (agree : Agree texts first second) : Agree texts second first :=
  ⟨agree.reachable.symm, agree.delay.symm, agree.answering.symm, fun text member => (agree.stored text member).symm⟩

theorem agree_trans {first second third : Server} (before : Agree texts first second)
    (after : Agree texts second third) :
    Agree texts first third :=
  ⟨before.reachable.trans after.reachable, before.delay.trans after.delay, ⟨before.answering.1, after.answering.2⟩,
    fun text member => (before.stored text member).trans (after.stored text member)⟩

theorem agree_mono {fewer : String → Prop} {server other : Server} (agree : Agree texts server other)
    (among : ∀ text, fewer text → texts text) : Agree fewer server other :=
  ⟨agree.reachable, agree.delay, agree.answering, fun text member => agree.stored text (among text member)⟩

theorem accept_agree (server other : Server) (agree : Agree texts server other) :
    server.accept.1 = other.accept.1 ∧ Agree texts server.accept.2 other.accept.2 := by
  rw [accept, accept, ← agree.reachable]
  by_cases reachable : server.reachable = true
  · rw [if_pos reachable, if_pos reachable]
    exact ⟨rfl, rfl, agree.delay, agree.answering, agree.stored⟩
  · rw [if_neg reachable, if_neg reachable]
    exact ⟨rfl, agree⟩

theorem accept_untouched (server : Server) (answering : server.script = []) : Agree texts server server.accept.2 := by
  rw [accept]
  by_cases reachable : server.reachable = true
  · rw [if_pos reachable]
    exact ⟨rfl, rfl, ⟨answering, answering⟩, fun _ _ => rfl⟩
  · rw [if_neg reachable]
    exact agree_refl server answering

theorem perform_agree (server other : Server) (command : Command) (agree : Agree texts server other)
    (own : texts command.key) :
    (server.perform command).1 = (other.perform command).1 ∧
      Agree texts (server.perform command).2 (other.perform command).2 := by
  have inserted (key : String) (value : List UInt8) (text : String) (member : texts text) :
      (server.stored.insert key value).find? text = (other.stored.insert key value).find? text := by
    rw [Table.find?_insert, Table.find?_insert, agree.stored text member]
  cases command with
  | get key => exact ⟨agree.stored key own, agree⟩
  | set key value => exact ⟨rfl, agree.reachable, agree.delay, agree.answering, inserted key value⟩
  | setEx key seconds value => exact ⟨rfl, agree.reachable, agree.delay, agree.answering, inserted key value⟩

theorem perform_untouched (server : Server) (command : Command) (answering : server.script = [])
    (other : ¬ texts command.key) : Agree texts server (server.perform command).2 := by
  have kept (value : List UInt8) (text : String) (member : texts text) :
      server.stored.find? text = (server.stored.insert command.key value).find? text := by
    rw [Table.find?_insert, if_neg]
    rintro rfl
    exact other member
  cases command with
  | get key => exact agree_refl server answering
  | set key value => exact ⟨rfl, rfl, ⟨answering, answering⟩, kept value⟩
  | setEx key seconds value => exact ⟨rfl, rfl, ⟨answering, answering⟩, kept value⟩

def logged (command : Command) (server : Server) : Server :=
  { server with log := server.log ++ [.sent command], script := server.script.tail }

theorem execute_answering (server : Server) (command : Command) (answering : server.script = []) :
    server.execute command =
      if server.reachable then (.ok ((server.logged command).perform command).1, ((server.logged command).perform command).2)
      else (.error .unreachable, server) := by
  simp [execute, logged, answering]

theorem logged_agree (server other : Server) (command : Command) (agree : Agree texts server other) :
    Agree texts (server.logged command) (other.logged command) := by
  obtain ⟨first, second⟩ := agree.answering
  exact ⟨agree.reachable, agree.delay, ⟨by rw [logged, first]; rfl, by rw [logged, second]; rfl⟩, agree.stored⟩

theorem logged_untouched (server : Server) (command : Command) (answering : server.script = []) :
    Agree texts server (server.logged command) :=
  ⟨rfl, rfl, ⟨answering, by rw [logged, answering]; rfl⟩, fun _ _ => rfl⟩

theorem execute_agree (server other : Server) (command : Command) (agree : Agree texts server other)
    (own : texts command.key) :
    (server.execute command).1 = (other.execute command).1 ∧
      Agree texts (server.execute command).2 (other.execute command).2 := by
  rw [execute_answering server command agree.answering.1, execute_answering other command agree.answering.2]
  by_cases reachable : server.reachable = true
  · rw [if_pos reachable, if_pos (agree.reachable ▸ reachable)]
    obtain ⟨answered, after⟩ := perform_agree _ _ command (logged_agree server other command agree) own
    exact ⟨congrArg Except.ok answered, after⟩
  · rw [if_neg reachable, if_neg (agree.reachable ▸ reachable)]
    exact ⟨rfl, agree⟩

theorem execute_untouched (server : Server) (command : Command) (answering : server.script = [])
    (other : ¬ texts command.key) : Agree texts server (server.execute command).2 := by
  rw [execute_answering server command answering]
  by_cases reachable : server.reachable = true
  · have logged : Agree texts server (server.logged command) := logged_untouched server command answering
    rw [if_pos reachable]
    exact agree_trans logged (perform_untouched _ command logged.answering.2 other)
  · rw [if_neg reachable]
    exact agree_refl server answering

end Server

end Redis

namespace RedisTier

open Redis (Command Server)

variable {A B : Type}

-- A call ended alike on two servers and kept to the texts that are the tier's own. The first one is as before it
-- on all other texts.
structure Private (mine : String → Prop) (tier : RedisTier) (server : Server)
    (first second : A × RedisTier × Server) : Prop where
  answer : first.1 = second.1
  same : first.2.1 = second.2.1
  keyPrefix : first.2.1.keyPrefix = tier.keyPrefix
  shared : first.2.2.Agree mine second.2.2
  untouched : server.Agree (fun text => ¬ mine text) first.2.2

variable {mine : String → Prop}

theorem private_map (f : A → RedisTier → B) {tier : RedisTier} {server : Server} {first second : A × RedisTier × Server}
    (ended : Private mine tier server first second) :
    Private mine tier server (f first.1 first.2.1, first.2) (f second.1 second.2.1, second.2) :=
  ⟨by rw [ended.answer, ended.same], ended.same, ended.keyPrefix, ended.shared, ended.untouched⟩

theorem linked_agree (isOpen : Bool) (server other : Server) (agree : server.Agree mine other) :
    ∃ linked after beside, (if isOpen then (true, server) else server.accept) = (linked, after) ∧
      (if isOpen then (true, other) else other.accept) = (linked, beside) ∧
      after.Agree mine beside ∧ server.Agree (fun text => ¬ mine text) after := by
  cases isOpen with
  | true => exact ⟨true, server, other, rfl, rfl, agree, Server.agree_refl server agree.answering.1⟩
  | false =>
      obtain ⟨same, after⟩ := Server.accept_agree server other agree
      refine ⟨server.accept.1, server.accept.2, other.accept.2, rfl, ?_, after,
        Server.accept_untouched server agree.answering.1⟩
      rw [same]
      rfl

theorem sent_agree (command : Command) (server opened other : Server) (agree : opened.Agree mine other)
    (untouched : server.Agree (fun text => ¬ mine text) opened) (own : mine command.key) :
    ∃ answer after beside, opened.execute command = (answer, after) ∧ other.execute command = (answer, beside) ∧
      after.Agree mine beside ∧ server.Agree (fun text => ¬ mine text) after := by
  obtain ⟨answered, after⟩ := Server.execute_agree opened other command agree own
  have touched : opened.Agree (fun text => ¬ mine text) (opened.execute command).2 :=
    Server.execute_untouched opened command agree.answering.1 (not_not_intro own)
  refine ⟨(opened.execute command).1, (opened.execute command).2, (other.execute command).2, rfl, ?_, after,
    Server.agree_trans untouched touched⟩
  rw [answered]

theorem command_private (command : Command) (tier : RedisTier) (server other : Server) (agree : server.Agree mine other)
    (own : mine command.key) :
    Private mine tier server (RedisTier.command command tier server) (RedisTier.command command tier other) := by
  obtain ⟨linked, first, second, here, there, shared, untouched⟩ := linked_agree tier.connected server other agree
  simp only [RedisTier.command, here, there]
  cases linked with
  | false => exact ⟨rfl, rfl, rfl, shared, untouched⟩
  | true =>
      obtain ⟨answer, after, beside, here, there, agree, kept⟩ := sent_agree command server first second shared untouched own
      simp only [here, there, if_true]
      cases answer with
      | ok answer => exact ⟨rfl, rfl, rfl, agree, kept⟩
      | error trouble => exact ⟨rfl, rfl, rfl, agree, kept⟩

theorem command_async_private (verb : String) (command : Command) (tier : RedisTier) (server other : Server)
    (agree : server.Agree mine other) (own : mine command.key) :
    Private mine tier server (commandAsync verb command tier server) (commandAsync verb command tier other) := by
  obtain ⟨linked, first, second, here, there, shared, untouched⟩ := linked_agree tier.attached server other agree
  simp only [commandAsync, here, there]
  cases linked with
  | false => exact ⟨rfl, rfl, rfl, shared, untouched⟩
  | true =>
      obtain ⟨answer, after, beside, here, there, agree, kept⟩ := sent_agree command server first second shared untouched own
      simp only [here, there, if_true]
      cases answer with
      | ok answer => exact ⟨rfl, rfl, rfl, agree, kept⟩
      | error trouble => exact ⟨rfl, rfl, rfl, agree, kept⟩

theorem put_command_key (tier : RedisTier) (key value : Json) :
    (tier.putCommand key value).key = serverKey tier.keyPrefix key := by
  rw [putCommand]
  split <;> rfl

section Calls

variable (key value : Json) (tier : RedisTier) (server other : Server)

theorem get_private (agree : server.Agree mine other) (own : mine (serverKey tier.keyPrefix key)) :
    Private mine tier server (get key tier server) (get key tier other) :=
  private_map (fun answer later => later.decode answer) (command_private (tier.getCommand key) tier server other agree own)

theorem get_async_private (agree : server.Agree mine other) (own : mine (serverKey tier.keyPrefix key)) :
    Private mine tier server (getAsync key tier server) (getAsync key tier other) :=
  private_map (fun answer later => later.decode answer)
    (command_async_private "GET" (tier.getCommand key) tier server other agree own)

theorem put_private (agree : server.Agree mine other) (own : mine (serverKey tier.keyPrefix key)) :
    Private mine tier server (put key value tier server) (put key value tier other) := by
  rw [← put_command_key tier key value] at own
  exact private_map (fun answer _ => answer.map fun _ => ()) (command_private _ tier server other agree own)

theorem put_async_private (agree : server.Agree mine other) (own : mine (serverKey tier.keyPrefix key)) :
    Private mine tier server (putAsync key value tier server) (putAsync key value tier other) := by
  rw [← put_command_key tier key value] at own
  exact private_map (fun answer _ => answer.map fun _ => ()) (command_async_private "SET" _ tier server other agree own)

end Calls

end RedisTier

end CacheTiers
