import CacheTiers.Proofs.Redis.Entered
import CacheTiers.Proofs.Resolve.Restraint
import CacheTiers.Proofs.World.Slots
import CacheTiers.Session.Basic

namespace CacheTiers

namespace Redis.Server

theorem accept_stored (server : Server) : server.accept.2.stored = server.stored := by
  rw [accept]
  split <;> rfl

theorem execute_get_stored (server : Server) (key : String) : (server.execute (.get key)).2.stored = server.stored := by
  rw [execute]
  split
  · split <;> rfl
  · rfl

theorem carried_get_stored (server : Server) (isOpen : Bool) (key : String) :
    (server.carried isOpen (.get key)).stored = server.stored := by
  have opened : (if isOpen then (true, server) else server.accept).2.stored = server.stored := by
    cases isOpen with
    | true => rfl
    | false => exact accept_stored server
  rw [carried]
  rcases reached : (if isOpen then (true, server) else server.accept) with ⟨linked, after⟩
  rw [reached] at opened
  cases linked with
  | false => exact opened
  | true => exact (execute_get_stored after key).trans opened

end Redis.Server

namespace RedisTier

open Redis (Server)

theorem get_stored (key : Json) (tier : RedisTier) (server : Server) :
    (RedisTier.get key tier server).2.2.stored = server.stored :=
  (congrArg Server.stored (command_server _ tier server)).trans (server.carried_get_stored tier.connected _)

theorem get_async_stored (key : Json) (tier : RedisTier) (server : Server) :
    (RedisTier.getAsync key tier server).2.2.stored = server.stored :=
  (congrArg Server.stored (command_async_server _ tier server "GET")).trans
    (server.carried_get_stored tier.attached _)

end RedisTier

-- A scripted tier may compute in a manner of its own; all others do so with a look and a write.
def TierState.Usual : TierState → Prop
  | .memory _ => True
  | .scripted given => given.manner = .usual
  | .redis _ => True

inductive Kept where
  | memory (entries : Table Json Json)
  | scripted (entries : Table Json Json)
  | redis

namespace World

def keptBy : TierState → Kept
  | .memory memory => .memory memory.entries
  | .scripted scripted => .scripted scripted.entries
  | .redis _ => .redis

def holdings (places : List Nat) : Holdings World (List Kept × (Redis.Endpoint → Table String (List UInt8))) where
  valid := fun world => ∀ place ∈ places, ∃ state, world.state? place = some state ∧ state.Usual
  contents := fun world =>
    (world.slots.map fun slot => keptBy slot.state, fun endpoint => (world.server endpoint).stored)

variable {places : List Nat}

theorem set_state_entries (index : Nat) (old state : TierState) (world : World) (read : world.state? index = some old)
    (same : keptBy state = keptBy old) :
    ((world.setState index state).slots.map fun slot => keptBy slot.state) =
      world.slots.map fun slot => keptBy slot.state := by
  apply List.ext_getElem?
  intro place
  rw [List.getElem?_map, List.getElem?_map, set_state_slot]
  cases present : world.slots[place]? with
  | none => rfl
  | some slot =>
      by_cases here : index = place
      · subst here
        have stood : slot.state = old := by simpa [state?, present] using read
        simp [same, stood]
      · simp [here]

theorem set_state_still (index : Nat) (old state : TierState) (world : World) (read : world.state? index = some old)
    (same : keptBy state = keptBy old) (usual : old.Usual → state.Usual) :
    (holdings places).Still world (world.setState index state) := by
  intro valid
  refine ⟨?_, congrArg (fun entries => (entries, _)) (set_state_entries index old state world read same)⟩
  intro place member
  obtain ⟨stood, here, first⟩ := valid place member
  by_cases touched : index = place
  · subst touched
    obtain rfl := Option.some.inj (read.symm.trans here)
    exact ⟨state, set_state_here index old state world read, usual first⟩
  · exact ⟨stood, (set_state_elsewhere index place state world touched).trans here, first⟩

theorem set_server_still (endpoint : Redis.Endpoint) (server : Redis.Server) (world : World)
    (same : server.stored = (world.server endpoint).stored) :
    (holdings places).Still world (world.setServer endpoint server) := by
  intro valid
  refine ⟨valid, congrArg (Prod.mk _) (funext fun other => ?_)⟩
  rw [set_server_server]
  by_cases here : other = endpoint
  · rw [if_pos here, same, here]
  · rw [if_neg here]

theorem note_at_still (index : Nat) (entry : Entry) (world : World) :
    (holdings places).Still world (world.noteAt index entry) := by
  intro valid
  refine ⟨?_, ?_⟩
  · intro place member
    rw [note_at_state]
    exact valid place member
  · simp only [holdings, note_at_slots, server, note_at_servers]

theorem note_still (entry : Entry) (world : World) : (holdings places).Still world (world.note entry) :=
  fun valid => ⟨valid, rfl⟩

theorem at_server_still {A : Type} (index : Nat) (call : RedisTier → Redis.Server → A × RedisTier × Redis.Server)
    (tier : RedisTier) (world : World) (read : world.state? index = some (.redis tier))
    (keeps : ∀ server, (call tier server).2.2.stored = server.stored) :
    (holdings places).Still world (atServer index call tier world).2 := by
  let later := (call tier (world.server tier.endpoint)).2.1
  have moved : (holdings places).Still world (world.setState index (.redis later)) :=
    set_state_still index (.redis tier) (.redis later) world read rfl id
  have served : (holdings places).Still _ (atServer index call tier world).2 :=
    set_server_still tier.endpoint (call tier (world.server tier.endpoint)).2.2 (world.setState index (.redis later))
      (keeps (world.server tier.endpoint))
  exact (holdings places).composes_still.trans _ _ _ moved served

theorem scripted_get_entries (key : Json) (scripted : Scripted Json Json) :
    (Scripted.get key scripted).2.entries = scripted.entries ∧
    (Scripted.get key scripted).2.manner = scripted.manner := by
  rw [Scripted.get]
  split <;> exact ⟨rfl, rfl⟩

theorem get_still (index : Nat) (key : Json) (world : World) : (holdings places).Still world (world.get index key).2 :=
    by
  rw [World.get]
  cases read : world.state? index with
  | none => exact (holdings places).composes_still.refl world
  | some state =>
      cases state with
      | memory memory => exact set_state_still index _ _ world read rfl id
      | scripted scripted =>
          obtain ⟨entries, manner⟩ := scripted_get_entries key scripted
          exact set_state_still index _ _ world read (congrArg Kept.scripted entries) fun usual => manner.trans usual
      | redis tier => exact at_server_still index _ tier world read (RedisTier.get_stored key tier)

theorem get_late_still (index : Nat) (key : Json) (world : World) :
    (holdings places).Still world (world.getLate index key).2 := by
  rw [getLate]
  cases read : world.state? index with
  | none => exact get_still index key world
  | some state =>
      cases state with
      | memory memory => exact get_still index key world
      | scripted scripted => exact get_still index key world
      | redis tier => exact at_server_still index _ tier world read (RedisTier.get_async_stored key tier)

theorem enter_answer (index : Nat) (key : Json) (told : Lookup Json) (world : World) :
    (world.enter index key told).1 = told := by
  rw [enter]
  cases world.state? index with
  | none => rfl
  | some state =>
      cases state with
      | scripted scripted => rfl
      | redis tier => rfl
      | memory memory => rcases told with error | _ | value <;> rfl

theorem memory_stays (index : Nat) (memory : Memory Json Json) (start later : World)
    (read : start.state? index = some (.memory memory))
    (same : (holdings places).contents later = (holdings places).contents start) :
    ∃ other, later.state? index = some (.memory other) := by
  have slots : (later.slots.map fun slot => keptBy slot.state)[index]? =
      (start.slots.map fun slot => keptBy slot.state)[index]? := congrArg (·.1[index]?) same
  rw [List.getElem?_map, List.getElem?_map] at slots
  obtain ⟨slot, present, here⟩ := Option.map_eq_some_iff.mp read
  rw [present, Option.map_some, here] at slots
  obtain ⟨other, there, kept⟩ := Option.map_eq_some_iff.mp slots
  cases state : other.state with
  | memory memory => exact ⟨memory, by simp [state?, there, state]⟩
  | scripted scripted =>
      rw [state] at kept
      cases kept
  | redis tier =>
      rw [state] at kept
      cases kept

-- An entry in the journal changes nothing but the journal, and no tier looks at that.
theorem note_at_journal (index : Nat) (entry : Entry) (world : World) :
    ∃ journal, world.noteAt index entry = { world with journal } := by
  rw [noteAt]
  split
  · split
    · exact ⟨_, rfl⟩
    · exact ⟨_, rfl⟩
  · exact ⟨_, rfl⟩

theorem get_beside_journal (index : Nat) (key : Json) (world : World) (journal : List Entry) :
    World.get index key { world with journal } =
      ((world.get index key).1, { (world.get index key).2 with journal }) := by
  have beside : World.state? { world with journal } index = world.state? index := rfl
  rw [World.get, World.get, beside]
  cases world.state? index with
  | none => rfl
  | some state => cases state <;> rfl

theorem put_beside_journal (index : Nat) (key value : Json) (world : World) (journal : List Entry) :
    World.put index key value { world with journal } =
      ((world.put index key value).1, { (world.put index key value).2 with journal }) := by
  have beside : World.state? { world with journal } index = world.state? index := rfl
  rw [World.put, World.put, beside]
  cases world.state? index with
  | none => rfl
  | some state => cases state <;> rfl

theorem get_noted (index : Nat) (entry : Entry) (key : Json) (world : World) :
    ((world.noteAt index entry).get index key).1 = (world.get index key).1 := by
  obtain ⟨journal, noted⟩ := note_at_journal index entry world
  rw [noted, get_beside_journal index key world journal]

theorem put_noted (index : Nat) (entry : Entry) (key value : Json) (world : World) :
    (world.put index key value).1 = ((world.noteAt index entry).put index key value).1 ∧
      (holdings places).contents (world.put index key value).2 =
        (holdings places).contents ((world.noteAt index entry).put index key value).2 := by
  obtain ⟨journal, noted⟩ := note_at_journal index entry world
  rw [noted, put_beside_journal index key value world journal]
  exact ⟨rfl, rfl⟩

theorem memory_computes (ref : TierRef) (key : Json) (world : World) (memory : Memory Json Json)
    (read : world.state? ref.index = some (.memory memory)) :
    (holdings places).Computes (World.tier ref) key world (world.noteAt ref.index (.called .compute ref.name))
      (World.get ref.index) (enterValue ref.index) where
  begins := note_at_still ref.index _ world
  computes := by
    have noted := (note_at_state ref.index ref.index (.called .compute ref.name) world).trans read
    rw [Tier.getThenPut, get_at_memory key noted, ← enter_as_keep]
    change compute ref key world = _
    rw [compute, read]
    cases held : memory.find? key with
    | some value => simp [held]
    | none => simp [held]
  finds := by rw [get_noted, World.tier, get_noted]
  leaves := get_still ref.index key _
  writes := by
    intro value later unmoved
    obtain ⟨other, there⟩ := memory_stays ref.index memory world later read unmoved.2
    rw [enter_value_at_memory key value there]
    exact put_noted ref.index _ key value later

theorem redis_computes (ref : TierRef) (key : Json) (world : World) (tier : RedisTier)
    (read : world.state? ref.index = some (.redis tier)) :
    (holdings places).Computes (World.tier ref) key world (world.noteAt ref.index (.called .compute ref.name))
      (World.get ref.index) (World.put ref.index) where
  begins := note_at_still ref.index _ world
  computes := by
    change compute ref key world = _
    rw [compute, read]
  finds := by rw [get_noted, World.tier, get_noted]
  leaves := get_still ref.index key _
  writes := fun value later _ => put_noted ref.index _ key value later

theorem tier_computes (ref : TierRef) (member : ref.index ∈ places) (key : Json) (world : World)
    (valid : (holdings places).valid world) :
    ∃ begun look write, (holdings places).Computes (World.tier ref) key world begun look write := by
  have composes := (holdings places).composes_still
  obtain ⟨state, read, usual⟩ := valid ref.index member
  cases state with
  | memory memory => exact ⟨_, _, _, memory_computes ref key world memory read⟩
  | redis tier => exact ⟨_, _, _, redis_computes ref key world tier read⟩
  | scripted scripted =>
      refine ⟨_, _, _, (holdings places).usual_computes (World.tier ref) key world ?_ ?_⟩
      · exact composes.trans _ _ _ (note_at_still ref.index _ world) (get_still ref.index key _)
      · change compute ref key world = _
        have manner : scripted.manner = .usual := usual
        simp only [compute, read, manner]
        rfl

theorem tier_careful (ref : TierRef) (member : ref.index ∈ places) : (holdings places).Careful (World.tier ref) where
  get := fun key world =>
    (holdings places).composes_still.trans _ _ _ (note_at_still ref.index _ world) (get_still ref.index key _)
  compute := fun key world valid => tier_computes ref member key world valid
  getAsync := by
    intro key world
    have composes := (holdings places).composes_still
    apply Poll.abides_after_step composes.trans (note_at_still ref.index (.started .get ref.name) world)
    refine Job.after_abides composes_eq composes.refl ?_
    rintro later rfl
    exact ⟨composes.trans _ _ _ (get_late_still ref.index key _) (note_at_still ref.index _ _), trivial⟩

theorem origin_job_still {A : Type} (given : A) (waits : Nat) (world : World) :
    Poll.Abides Eq (holdings places).Still (fun _ _ => True) world (Session.originJob given waits world) := by
  have composes := (holdings places).composes_still
  apply Poll.abides_after_step composes.trans (note_still .originStarted world)
  refine Job.after_abides composes_eq composes.refl ?_
  rintro later rfl
  exact ⟨note_still .originEnded _, trivial⟩

end World

end CacheTiers
