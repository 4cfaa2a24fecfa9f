import CacheTiers.Operation
import CacheTiers.World.Basic

namespace CacheTiers

namespace World

theorem note_at_slots (index : Nat) (entry : Entry) (world : World) :
    (world.noteAt index entry).slots = world.slots := by
  rw [noteAt]
  split
  · split <;> rfl
  · rfl

theorem note_at_servers (index : Nat) (entry : Entry) (world : World) :
    (world.noteAt index entry).servers = world.servers := by
  rw [noteAt]
  split
  · split <;> rfl
  · rfl

theorem note_at_state (index other : Nat) (entry : Entry) (world : World) :
    (world.noteAt index entry).state? other = world.state? other := by
  rw [state?, note_at_slots, state?]

theorem note_at_server (index : Nat) (entry : Entry) (world : World) (endpoint : Redis.Endpoint) :
    (world.noteAt index entry).server endpoint = world.server endpoint := by
  rw [server, note_at_servers, server]

theorem set_state_slot (index other : Nat) (state : TierState) (world : World) :
    (world.setState index state).slots[other]? =
      (world.slots[other]?).map fun slot => if index = other then { slot with state } else slot := by
  rw [setState, List.getElem?_modify]
  rfl

theorem set_state_here (index : Nat) (old state : TierState) (world : World) (read : world.state? index = some old) :
    (world.setState index state).state? index = some state := by
  obtain ⟨slot, present, _⟩ := Option.map_eq_some_iff.mp read
  simp [state?, set_state_slot, present]

theorem set_state_elsewhere (index other : Nat) (state : TierState) (world : World) (different : index ≠ other) :
    (world.setState index state).state? other = world.state? other := by
  simp [state?, set_state_slot, different]

theorem state_bound (index : Nat) (state : TierState) (world : World) (read : world.state? index = some state) :
    index < world.slots.length := by
  obtain ⟨slot, present, _⟩ := Option.map_eq_some_iff.mp read
  exact (List.getElem?_eq_some_iff.mp present).1

theorem set_server_server (endpoint other : Redis.Endpoint) (server : Redis.Server) (world : World) :
    (world.setServer endpoint server).server other = if other = endpoint then server else world.server other := by
  simp only [World.server, setServer, Table.find?_insert]
  split <;> rfl

-- How a memory takes in the value it was told. Any other kind of tier is left as it is.
def enterValue (index : Nat) (key value : Json) (world : World) : Except CacheError Unit × World :=
  match world.state? index with
  | some (.memory memory) => (.ok (), world.setState index (.memory (memory.insert key value)))
  | _ => (.ok (), world)

section Memory

variable {index : Nat} {memory : Memory Json Json} {world : World}

theorem set_state_same (state : TierState) (read : world.state? index = some state) :
    world.setState index state = world := by
  obtain ⟨slot, present, rfl⟩ := Option.map_eq_some_iff.mp read
  have slots : (world.setState index slot.state).slots = world.slots := by
    apply List.ext_getElem?
    intro other
    rw [set_state_slot]
    by_cases same : index = other
    · subst same
      simp [present]
    · simp [same]
  exact congrArg (fun slots => { world with slots }) slots

theorem get_at_memory (key : Json) (read : world.state? index = some (.memory memory)) :
    world.get index key = (.ok (memory.find? key), world) := by
  rw [World.get, read]
  exact congrArg (Prod.mk _) (set_state_same _ read)

theorem put_at_memory (key value : Json) (read : world.state? index = some (.memory memory)) :
    world.put index key value = (.ok (), world.setState index (.memory (memory.insert key value))) := by
  rw [World.put, read]
  rfl

theorem get_late_at_memory (key : Json) (read : world.state? index = some (.memory memory)) :
    world.getLate index key = (.ok (memory.find? key), world) := by
  rw [getLate, read]
  exact get_at_memory key read

theorem put_late_at_memory (key value : Json) (read : world.state? index = some (.memory memory)) :
    world.putLate index key value = (.ok (), world.setState index (.memory (memory.insert key value))) := by
  rw [putLate, read]
  exact put_at_memory key value read

theorem enter_at_memory (key : Json) (told : Lookup Json) (read : world.state? index = some (.memory memory)) :
    world.enter index key told = (told, world.setState index (.memory (Memory.enter key told memory).2)) := by
  rw [enter, read]
  rcases told with error | _ | value <;> rfl

theorem enter_value_at_memory (key value : Json) (read : world.state? index = some (.memory memory)) :
    enterValue index key value world = world.put index key value := by
  rw [put_at_memory key value read, enterValue, read]

theorem enter_as_keep (index : Nat) (key : Json) : enter index key = Tier.keep (enterValue index) key := by
  funext told world
  cases read : world.state? index with
  | none => rcases told with error | _ | value <;> simp [enter, Tier.keep, enterValue, read]
  | some state =>
      cases state with
      | scripted scripted => rcases told with error | _ | value <;> simp [enter, Tier.keep, enterValue, read]
      | redis tier => rcases told with error | _ | value <;> simp [enter, Tier.keep, enterValue, read]
      | memory memory =>
          rw [enter_at_memory key told read]
          rcases told with error | _ | value
          · exact congrArg (Prod.mk _) (set_state_same _ read)
          · exact congrArg (Prod.mk _) (set_state_same _ read)
          · simp [Tier.keep, enterValue, read, Memory.enter]

end Memory

end World

-- A callback given to the tier in a slot. It may do anything but change that tier.
structure Callback (index : Nat) where
  ask : World → Lookup Json × World
  aside : ∀ world, (ask world).2.state? index = world.state? index

def Operation.places (operation : Operation TierRef) : List Nat := operation.tiers.map TierRef.index

end CacheTiers
