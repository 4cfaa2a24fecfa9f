import CacheTiers.Proofs.World.TypedMap

namespace CacheTiers

namespace World

variable {index : Nat} {memory : Memory Json Json} {world : World}

theorem enter_keep (key : Json) (told : Lookup Json) (read : world.state? index = some (.memory memory)) :
    world.enter index key told = Tier.keep (put index) key told world := by
  rw [enter_as_keep]
  rcases told with error | _ | value
  · rfl
  · rfl
  · rw [Tier.keep, Tier.keep, enter_value_at_memory key value read]

-- A tier with the usual way to compute where absent in place of its own.
def usual (ref : TierRef) : Tier World Json Json :=
  { tier ref with
    computeIfAbsent := fun key world =>
      Tier.getThenPut (get ref.index) (put ref.index) key (world.noteAt ref.index (.called .compute ref.name)) }

def changeMemory (index : Nat) (change : Memory Json Json → Memory Json Json) (world : World) : World :=
  match world.state? index with
  | some (.memory memory) => world.setState index (.memory (change memory))
  | _ => world

end World

def Callback.consulted (ref : TierRef) (callback : Callback ref.index) (world : World) : Lookup Json × World :=
  callback.ask (world.noteAt ref.index (.called .compute ref.name))

inductive MemoryCall (index : Nat) where
  | get (key : Json)
  | getAsync (key : Json)
  | put (key value : Json)
  | putAsync (key value : Json)
  | compute (key : Json) (callback : Callback index)
  | invalidate (key : Json)
  | clear

namespace MemoryCall

open TierCall (Report)

def run {index : Nat} (tier : Tier World Json Json) : MemoryCall index → World → Report × World
  | get key, world =>
    let (found, world) := tier.get key world
    (.read found, world)
  | getAsync key, world =>
    let (found, world) := (tier.getAsync key).run world
    (.read found, world)
  | put key value, world =>
    let (done, world) := tier.put key value world
    (.wrote done, world)
  | putAsync key value, world =>
    let (done, world) := (tier.putAsync key value).run world
    (.wrote done, world)
  | compute key callback, world =>
    match tier.computeIfAbsent key world with
    | .answer found world => (.computed none found, world)
    | .ask resume world =>
      let (given, world) := callback.ask world
      let (found, world) := resume given world
      (.computed (some given) found, world)
  | invalidate key, world => (.wrote (.ok ()), world.changeMemory index fun memory => memory.invalidate key)
  | clear, world => (.wrote (.ok ()), world.changeMemory index Memory.clear)

def runAll {index : Nat} (tier : Tier World Json Json) : List (MemoryCall index) → World → List Report × World
  | [], world => ([], world)
  | call :: rest, world =>
    let (report, world) := call.run tier world
    let (reports, world) := runAll tier rest world
    (report :: reports, world)

structure Computed (key : Json) (told : Lookup Json) (memory : Memory Json Json) (report : Report)
    (later : Memory Json Json) : Prop where
  known : ∀ value, memory.find? key = some value → report = .computed none (.ok (some value)) ∧ later = memory
  unknown : memory.find? key = none → report = .computed (some told) told
  stored : ∀ value, memory.find? key = none → told = .ok (some value) → later = memory.insert key value
  unchanged : (∀ value, told ≠ .ok (some value)) → later = memory
  readable : memory.ttl ≠ some 0 → ∀ value, report = .computed (some (.ok (some value))) (.ok (some value)) →
    later.find? key = some value
  forgotten : memory.ttl = some 0 → memory.find? key = none ∧ later.find? key = none

section Calls

variable {ref : TierRef} {world : World} {memory : Memory Json Json}

theorem own_compute (key : Json) (read : world.state? ref.index = some (.memory memory)) :
    (World.tier ref).computeIfAbsent key world =
      let noted := world.noteAt ref.index (.called .compute ref.name)
      match memory.find? key with
      | some value => .answer (.ok (some value)) noted
      | none => .ask (World.enter ref.index key) noted := by
  change World.compute ref key world = _
  cases held : memory.find? key with
  | some value =>
      rw [World.compute, read]
      simp only [held]
  | none =>
      rw [World.compute, read]
      simp only [held]

theorem usual_compute (key : Json) (read : world.state? ref.index = some (.memory memory)) :
    (World.usual ref).computeIfAbsent key world =
      let noted := world.noteAt ref.index (.called .compute ref.name)
      match memory.find? key with
      | some value => .answer (.ok (some value)) noted
      | none => .ask (Tier.keep (World.put ref.index) key) noted := by
  have noted := (World.note_at_state ref.index ref.index (.called .compute ref.name) world).trans read
  change Tier.getThenPut _ _ _ _ = _
  rw [Tier.getThenPut, World.get_at_memory key noted]
  cases memory.find? key with
  | some value => rfl
  | none => rfl

theorem consulted_state (callback : Callback ref.index) (read : world.state? ref.index = some (.memory memory)) :
    (callback.consulted ref world).2.state? ref.index = some (.memory memory) := by
  rw [Callback.consulted, callback.aside, World.note_at_state, read]

-- The two tiers differ only in how they take in what the callback tells, and that comes to the same in the world that it
-- leaves.
theorem run_usual (call : MemoryCall ref.index) (read : world.state? ref.index = some (.memory memory)) :
    call.run (World.usual ref) world = call.run (World.tier ref) world := by
  cases call with
  | get key => rfl
  | getAsync key => rfl
  | put key value => rfl
  | putAsync key value => rfl
  | invalidate key => rfl
  | clear => rfl
  | compute key callback =>
      rw [run, run, usual_compute key read, own_compute key read]
      cases memory.find? key with
      | some value => rfl
      | none =>
          have same := World.enter_keep key (callback.consulted ref world).1 (consulted_state callback read)
          simp only [Callback.consulted] at same
          simp only [same]

theorem run_compute_known (key value : Json) (callback : Callback ref.index)
    (read : world.state? ref.index = some (.memory memory)) (held : memory.find? key = some value) :
    (compute key callback).run (World.tier ref) world =
      (.computed none (.ok (some value)), world.noteAt ref.index (.called .compute ref.name)) := by
  rw [run, own_compute key read, held]

theorem run_compute_unknown (key : Json) (callback : Callback ref.index)
    (read : world.state? ref.index = some (.memory memory)) (absent : memory.find? key = none) :
    (compute key callback).run (World.tier ref) world =
      let (told, left) := callback.consulted ref world
      (.computed (some told) told, left.setState ref.index (.memory (Memory.enter key told memory).2)) := by
  have entered := World.enter_at_memory key (callback.consulted ref world).1 (consulted_state callback read)
  simp only [Callback.consulted] at entered
  rw [run, own_compute key read, absent]
  simp only [Callback.consulted, entered]

theorem insert_clear (memory : Memory Json Json) (key value : Json) : (memory.insert key value).clear = memory.clear := by
  rw [Memory.insert]
  split <;> rfl

theorem enter_clear (memory : Memory Json Json) (key : Json) (told : Lookup Json) :
    (Memory.enter key told memory).2.clear = memory.clear := by
  rcases told with error | _ | value
  · rfl
  · rfl
  · exact insert_clear memory key value

theorem find_forgotten (memory : Memory Json Json) (key : Json) (zero : memory.ttl = some 0) :
    memory.find? key = none := by
  simp [Memory.find?, Memory.keeps, zero]

theorem insert_read (memory : Memory Json Json) (key value : Json) (lasts : memory.ttl ≠ some 0) :
    (memory.insert key value).find? key = some value := by
  simp [Memory.insert, Memory.find?, Memory.keeps, lasts]

theorem computed_known (key value : Json) (told : Lookup Json) (held : memory.find? key = some value) :
    Computed key told memory (.computed none (.ok (some value))) memory where
  known := by
    rintro other same
    cases held.symm.trans same
    exact ⟨rfl, rfl⟩
  unknown := fun absent => nomatch held.symm.trans absent
  stored := fun _ absent => nomatch held.symm.trans absent
  unchanged := fun _ => rfl
  readable := fun _ _ same => nomatch same
  forgotten := fun zero => ⟨find_forgotten memory key zero, find_forgotten memory key zero⟩

theorem computed_unknown (key : Json) (told : Lookup Json) (absent : memory.find? key = none) :
    Computed key told memory (.computed (some told) told) (Memory.enter key told memory).2 where
  known := fun _ held => nomatch absent.symm.trans held
  unknown := fun _ => rfl
  stored := by
    rintro value _ rfl
    rfl
  unchanged := by
    intro without
    rcases told with error | _ | value
    · rfl
    · rfl
    · exact absurd rfl (without value)
  readable := by
    rintro lasts value ⟨⟩
    exact insert_read memory key value lasts
  forgotten := by
    intro zero
    have still := congrArg Memory.ttl (enter_clear memory key told)
    exact ⟨absent, find_forgotten _ key (still.trans zero)⟩

theorem run_computed (key : Json) (callback : Callback ref.index)
    (read : world.state? ref.index = some (.memory memory)) :
    ∃ later, ((compute key callback).run (World.tier ref) world).2.state? ref.index = some (.memory later) ∧
      later.clear = memory.clear ∧
      Computed key (callback.consulted ref world).1 memory ((compute key callback).run (World.tier ref) world).1 later := by
  cases held : memory.find? key with
  | some value =>
      rw [run_compute_known key value callback read held]
      exact ⟨memory, (World.note_at_state _ _ _ _).trans read, rfl, computed_known key value _ held⟩
  | none =>
      rw [run_compute_unknown key callback read held]
      exact ⟨_, World.set_state_here ref.index _ _ _ (consulted_state callback read), enter_clear memory key _,
        computed_unknown key _ held⟩

theorem change_memory (change : Memory Json Json → Memory Json Json)
    (read : world.state? ref.index = some (.memory memory)) :
    (world.changeMemory ref.index change).state? ref.index = some (.memory (change memory)) := by
  rw [World.changeMemory, read]
  exact World.set_state_here ref.index _ _ world read

theorem run_memory (call : MemoryCall ref.index) (read : world.state? ref.index = some (.memory memory)) :
    ∃ later, (call.run (World.tier ref) world).2.state? ref.index = some (.memory later) ∧ later.clear = memory.clear := by
  have noted := fun entry => (World.note_at_state ref.index ref.index entry world).trans read
  cases call with
  | get key =>
      refine ⟨memory, ?_, rfl⟩
      simp only [run, World.tier, World.get_at_memory key (noted _), noted]
  | getAsync key =>
      refine ⟨memory, ?_, rfl⟩
      simp only [run, TierCall.get_async_run, World.get_late_at_memory key (noted _), World.note_at_state, read]
  | put key value =>
      refine ⟨memory.insert key value, ?_, insert_clear memory key value⟩
      simp only [run, World.tier, World.put_at_memory key value (noted _)]
      exact World.set_state_here ref.index _ _ _ (noted _)
  | putAsync key value =>
      refine ⟨memory.insert key value, ?_, insert_clear memory key value⟩
      simp only [run, TierCall.put_async_run, World.put_late_at_memory key value (noted _), World.note_at_state]
      exact World.set_state_here ref.index _ _ _ (noted _)
  | invalidate key => exact ⟨memory.invalidate key, change_memory _ read, rfl⟩
  | clear => exact ⟨memory.clear, change_memory _ read, rfl⟩
  | compute key callback =>
      obtain ⟨later, left, kept, _⟩ := run_computed key callback read
      exact ⟨later, left, kept⟩

theorem run_all_usual (calls : List (MemoryCall ref.index)) (read : world.state? ref.index = some (.memory memory)) :
    runAll (World.usual ref) calls world = runAll (World.tier ref) calls world ∧
      ∃ later, (runAll (World.tier ref) calls world).2.state? ref.index = some (.memory later) ∧
        later.clear = memory.clear := by
  induction calls generalizing world memory with
  | nil => exact ⟨rfl, memory, read, rfl⟩
  | cons call rest ih =>
      obtain ⟨between, there, kept⟩ := run_memory call read
      obtain ⟨same, later, reached, still⟩ := ih there
      simp only [runAll, run_usual call read, same]
      exact ⟨trivial, later, reached, still.trans kept⟩

-- Whatever has been asked of the tier since it was made, computing where absent comes to what the usual way comes to:
-- the same report, the callback asked or not, and the same world.
theorem compute_agrees_with_usual (ref : TierRef) (name : String) (capacity : Nat) (ttl : Option Nat) (start : World)
    (calls : List (MemoryCall ref.index)) (key : Json) (callback : Callback ref.index)
    (made : start.state? ref.index = some (.memory (.new name capacity ttl))) :
    let reached := (runAll (World.tier ref) calls start).2
    let own := (compute key callback).run (World.tier ref) reached
    runAll (World.usual ref) calls start = runAll (World.tier ref) calls start ∧
      (compute key callback).run (World.usual ref) reached = own ∧
      ∃ memory later, reached.state? ref.index = some (.memory memory) ∧ memory.clear = .new name capacity ttl ∧
        own.2.state? ref.index = some (.memory later) ∧ later.clear = .new name capacity ttl ∧
        Computed key (callback.consulted ref reached).1 memory own.1 later := by
  intro reached own
  obtain ⟨alike, memory, there, kept⟩ := run_all_usual calls made
  obtain ⟨later, left, still, computed⟩ := run_computed key callback there
  exact ⟨alike, run_usual (compute key callback) there, memory, later, there, kept, left, still.trans kept, computed⟩

end Calls

def shelf : TierRef := ⟨0, "l1"⟩

def newShelf (ttl : Option Nat) : World := ⟨[⟨.memory (.new "l1" 10 ttl), true⟩], .empty, []⟩

def telling (told : Lookup Json) : Callback 0 := ⟨fun world => (told, world.note .origin), fun _ => rfl⟩

def shelfCalls : List (MemoryCall 0) :=
  [put (.int 1) (.str "a"), compute (.int 2) (telling (.ok (some (.str "b")))), clear, putAsync (.int 3) .null,
    compute (.int 3) (telling (.ok none)), invalidate (.int 2), getAsync (.int 1)]

theorem compute_agrees_on_shelves :
    (let reached := (runAll (World.tier shelf) shelfCalls (newShelf (some 0))).2
      let usual := (compute (.int 3) (telling (.ok (some (.str "d"))))).run (World.usual shelf) reached
      usual.1 = .computed (some (.ok (some (.str "d")))) (.ok (some (.str "d"))) ∧
        ((get (.int 3) : MemoryCall 0).run (World.usual shelf) usual.2).1 = .read (.ok none)) ∧
      let reached := (runAll (World.tier shelf) shelfCalls (newShelf none)).2
      ((compute (.int 3) (telling (.error (.tier "origin" "down")))).run (World.usual shelf) reached).1 =
        .computed none (.ok (some .null)) := by
  obtain ⟨_, same, _, _, _, kept, _, _, computed⟩ := compute_agrees_with_usual shelf "l1" 10 (some 0)
    (newShelf (some 0)) shelfCalls (.int 3) (telling (.ok (some (.str "d")))) rfl
  obtain ⟨_, alike, lasting, _, there, _, _, _, ended⟩ := compute_agrees_with_usual shelf "l1" 10 none (newShelf none)
    shelfCalls (.int 3) (telling (.error (.tier "origin" "down"))) rfl
  have absent := (computed.forgotten (congrArg Memory.ttl kept)).1
  refine ⟨⟨?_, rfl⟩, ?_⟩
  · exact (congrArg Prod.fst same).trans (computed.unknown absent)
  · obtain rfl := TierState.memory.inj (Option.some.inj there)
    exact (congrArg Prod.fst alike).trans (ended.known .null rfl).1

end MemoryCall

end CacheTiers
