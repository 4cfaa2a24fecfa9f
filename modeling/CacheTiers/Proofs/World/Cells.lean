import CacheTiers.Proofs.Resolve.Cells
import CacheTiers.Proofs.World.Slots
import CacheTiers.Session.Basic

namespace CacheTiers.World

def asksOrigin : Entry → Bool
  | .origin | .originStarted | .body => true
  | _ => false

def asked (world : World) : Nat := world.journal.countP asksOrigin

def IsMap : TierState → Prop
  | .memory _ => True
  | .scripted scripted => scripted.manner = .usual
  | .redis _ => False

def getState (key : Json) : Option TierState → Lookup Json × Option TierState
  | some (.memory memory) => (.ok (memory.find? key), some (.memory memory))
  | some (.scripted scripted) => ((Scripted.get key scripted).1, some (.scripted (Scripted.get key scripted).2))
  | other => (.ok none, other)

def putState (key value : Json) : Option TierState → Except CacheError Unit × Option TierState
  | some (.memory memory) => (.ok (), some (.memory (memory.insert key value)))
  | some (.scripted scripted) =>
    ((Scripted.put key value scripted).1, some (.scripted (Scripted.put key value scripted).2))
  | other => (.ok (), other)

-- The worlds in which some slots are those of tiers that are maps. Other slots are left alone.
def cells (places : List Nat) : Cells Nat World Json Json (Option TierState) where
  valid := fun world => ∀ index ∈ places, ∃ state, world.state? index = some state ∧ IsMap state
  contents := state?
  asked := asked
  get := fun _ => getState
  put := fun _ => putState

theorem asked_note (entry : Entry) (world : World) (other : asksOrigin entry = false) :
    asked (world.note entry) = asked world := by
  simp [asked, note, List.countP_append, other]

theorem asked_note_origin (entry : Entry) (world : World) (counts : asksOrigin entry = true) :
    asked (world.note entry) = asked world + 1 := by
  simp [asked, note, List.countP_append, counts]

theorem asked_note_at (index : Nat) (entry : Entry) (world : World) (other : asksOrigin entry = false) :
    asked (world.noteAt index entry) = asked world := by
  rw [noteAt]
  split
  · split
    · exact asked_note entry world other
    · rfl
  · rfl

theorem note_at_moves (places : List Nat) (index : Nat) (entry : Entry) (world : World)
    (other : asksOrigin entry = false) (valid : (cells places).valid world) :
    (cells places).Moves 0 world world.state? (world.noteAt index entry) := by
  refine ⟨?_, ?_, asked_note_at index entry world other⟩
  · intro place member
    rw [note_at_state]
    exact valid place member
  · funext place
    exact note_at_state index place entry world

theorem set_state_moves (places : List Nat) (index : Nat) (old state : TierState) (world : World)
    (read : world.state? index = some old) (isMap : IsMap state) (valid : (cells places).valid world) :
    (cells places).Moves 0 world (Function.update world.state? index (some state)) (world.setState index state) := by
  have contents : (world.setState index state).state? = Function.update world.state? index (some state) := by
    funext place
    by_cases same : index = place
    · subst same
      rw [set_state_here index old state world read, Function.update_self]
    · rw [set_state_elsewhere index place state world same, Function.update_of_ne (Ne.symm same)]
  refine ⟨?_, contents, rfl⟩
  intro place member
  rw [contents]
  by_cases same : place = index
  · subst same
    exact ⟨state, Function.update_self .., isMap⟩
  · rw [Function.update_of_ne same]
    exact valid place member

theorem get_moves (places : List Nat) (index : Nat) (key : Json) (world : World) (member : index ∈ places)
    (valid : (cells places).valid world) :
    (world.get index key).1 = (getState key (world.state? index)).1 ∧
      (cells places).Moves 0 world ((cells places).afterGet index key world.state?) (world.get index key).2 := by
  obtain ⟨state, read, isMap⟩ := valid index member
  rw [World.get, Cells.afterGet, read]
  cases state with
  | redis tier => exact isMap.elim
  | memory memory => exact ⟨rfl, set_state_moves places index _ _ world read trivial valid⟩
  | scripted scripted =>
      have usual : IsMap (.scripted (Scripted.get key scripted).2) := by
        simp only [Scripted.get]
        split <;> exact isMap
      exact ⟨rfl, set_state_moves places index _ _ world read usual valid⟩

theorem put_moves (places : List Nat) (index : Nat) (key value : Json) (world : World) (member : index ∈ places)
    (valid : (cells places).valid world) :
    (world.put index key value).1 = (putState key value (world.state? index)).1 ∧
      (cells places).Moves 0 world ((cells places).afterPut index key value world.state?)
        (world.put index key value).2 := by
  obtain ⟨state, read, isMap⟩ := valid index member
  rw [World.put, Cells.afterPut, read]
  cases state with
  | redis tier => exact isMap.elim
  | memory memory => exact ⟨rfl, set_state_moves places index _ _ world read trivial valid⟩
  | scripted scripted =>
      have usual : IsMap (.scripted (Scripted.put key value scripted).2) := by
        simp only [Scripted.put]
        split <;> exact isMap
      exact ⟨rfl, set_state_moves places index _ _ world read usual valid⟩

theorem get_late_eq (places : List Nat) (index : Nat) (key : Json) (world : World) (member : index ∈ places)
    (valid : (cells places).valid world) : world.getLate index key = world.get index key := by
  obtain ⟨state, read, isMap⟩ := valid index member
  rw [getLate, read]
  cases state with
  | redis tier => exact isMap.elim
  | memory memory => rfl
  | scripted scripted => rfl

theorem put_late_eq (places : List Nat) (index : Nat) (key value : Json) (world : World) (member : index ∈ places)
    (valid : (cells places).valid world) : world.putLate index key value = world.put index key value := by
  obtain ⟨state, read, isMap⟩ := valid index member
  rw [putLate, read]
  cases state with
  | redis tier => exact isMap.elim
  | memory memory => rfl
  | scripted scripted => rfl

theorem noted_get_moves (places : List Nat) (index : Nat) (entry : Entry) (key : Json) (world : World)
    (other : asksOrigin entry = false) (member : index ∈ places) (valid : (cells places).valid world) :
    ((world.noteAt index entry).get index key).1 = (getState key (world.state? index)).1 ∧
      (cells places).Moves 0 world ((cells places).afterGet index key world.state?)
        ((world.noteAt index entry).get index key).2 := by
  have noted := note_at_moves places index entry world other valid
  have acted := get_moves places index key (world.noteAt index entry) member noted.valid
  have same : (world.noteAt index entry).state? = world.state? := noted.contents
  rw [same] at acted
  exact ⟨acted.1, (cells places).moves_trans noted acted.2⟩

theorem noted_put_moves (places : List Nat) (index : Nat) (entry : Entry) (key value : Json) (world : World)
    (other : asksOrigin entry = false) (member : index ∈ places) (valid : (cells places).valid world) :
    ((world.noteAt index entry).put index key value).1 = (putState key value (world.state? index)).1 ∧
      (cells places).Moves 0 world ((cells places).afterPut index key value world.state?)
        ((world.noteAt index entry).put index key value).2 := by
  have noted := note_at_moves places index entry world other valid
  have acted := put_moves places index key value (world.noteAt index entry) member noted.valid
  have same : (world.noteAt index entry).state? = world.state? := noted.contents
  rw [same] at acted
  exact ⟨acted.1, (cells places).moves_trans noted acted.2⟩

theorem enter_keeps (places : List Nat) (index : Nat) (key : Json) (told : Lookup Json) (memory : Memory Json Json)
    (world : World)
    (read : world.state? index = some (.memory memory)) (valid : (cells places).valid world) :
    (cells places).Keeps index key told world (world.enter index key told) := by
  have entered := set_state_moves places index (.memory memory)
  simp only [enter, read]
  cases told with
  | error error =>
      have kept := entered (.memory memory) world read trivial valid
      rw [← read, Function.update_eq_self] at kept
      exact ⟨rfl, kept⟩
  | ok found =>
      cases found with
      | none =>
          have kept := entered (.memory memory) world read trivial valid
          rw [← read, Function.update_eq_self] at kept
          exact ⟨rfl, kept⟩
      | some value =>
          have kept := entered (.memory (memory.insert key value)) world read trivial valid
          simp only [Cells.Keeps, Cells.afterPut, cells, read, putState]
          exact ⟨rfl, kept⟩

theorem compute_moves (places : List Nat) (ref : TierRef) (key : Json) (world : World) (member : ref.index ∈ places)
    (valid : (cells places).valid world) : (cells places).Consults ref.index key world (compute ref key world) := by
  have noted := note_at_moves places ref.index (.called .compute ref.name) world rfl valid
  obtain ⟨state, read, isMap⟩ := valid ref.index member
  have contents : (cells places).contents world ref.index = some state := read
  simp only [compute, read]
  cases state with
  | redis tier => exact isMap.elim
  | memory memory =>
      have same : (cells places).afterGet ref.index key world.state? = world.state? := by
        rw [Cells.afterGet, read]
        exact (congrArg _ read.symm).trans (Function.update_eq_self _ _)
      dsimp only
      cases found : memory.find? key with
      | some value =>
          refine ⟨?_, by simp, same ▸ noted⟩
          rw [contents, ← found]
          rfl
      | none =>
          refine ⟨?_, same ▸ noted, ?_⟩
          · rw [contents, ← found]
            rfl
          · intro told later lawful kept
            rw [noted.contents, read] at kept
            exact enter_keeps places ref.index key told memory later kept lawful
  | scripted scripted =>
      have usual : scripted.manner = .usual := isMap
      simp only [usual]
      exact (cells places).get_then_put_consults _ _ ref.index key world
        (noted_get_moves places ref.index (.called .get ref.name) key world rfl member valid)
        (fun value later lawful => noted_put_moves places ref.index (.called .put ref.name) key value later rfl member lawful)

-- As much of the state of a slot as tells what a get and a put do to it.
structure Look (τ : Type) where
  of : Option TierState → τ
  get : Json → τ → Lookup Json × τ
  put : Json → Json → τ → Except CacheError Unit × τ
  gets : ∀ key state, get key (of state) = ((getState key state).1, of (getState key state).2)
  puts : ∀ key value state, put key value (of state) = ((putState key value state).1, of (putState key value state).2)

namespace Look

def whole : Look (Option TierState) := ⟨id, getState, putState, fun _ _ => rfl, fun _ _ _ => rfl⟩

variable {τ : Type} (look : Look τ) (places : List Nat)

def cells : Cells Nat World Json Json τ where
  valid := (World.cells places).valid
  contents := fun world index => look.of (world.state? index)
  asked := asked
  get := fun _ => look.get
  put := fun _ => look.put

theorem moves_of {count : Nat} {before after : World} {contents : Nat → Option TierState}
    (moves : (World.cells places).Moves count before contents after) :
    (look.cells places).Moves count before (fun index => look.of (contents index)) after :=
  ⟨moves.valid, funext fun index => congrArg look.of (congrFun moves.contents index), moves.asked⟩

theorem after_get (index : Nat) (key : Json) (contents : Nat → Option TierState) :
    (look.cells places).afterGet index key (fun place => look.of (contents place)) =
      fun place => look.of ((World.cells places).afterGet index key contents place) := by
  funext place
  by_cases same : place = index
  · subst same
    simp only [Cells.afterGet, Function.update_self]
    exact congrArg Prod.snd (look.gets key (contents place))
  · simp only [Cells.afterGet, Function.update_of_ne same]

theorem get_async_moves (ref : TierRef) (key : Json) (world : World) (member : ref.index ∈ places)
    (valid : (look.cells places).valid world) :
    (((tier ref).getAsync key).run world).1 = (look.get key (look.of (world.state? ref.index))).1 ∧
      (look.cells places).Moves 0 world
        ((look.cells places).afterGet ref.index key fun index => look.of (world.state? index))
        (((tier ref).getAsync key).run world).2 := by
  have acted := noted_get_moves places ref.index (.started .get ref.name) key world rfl member valid
  have noted := note_at_moves places ref.index (.started .get ref.name) world rfl valid
  have late := get_late_eq places ref.index key (world.noteAt ref.index (.started .get ref.name)) member noted.valid
  have ended := note_at_moves places ref.index (.ended .get ref.name) _ rfl acted.2.valid
  have contents : World.state? _ = _ := acted.2.contents
  rw [contents] at ended
  have run : ((tier ref).getAsync key).run world = _ :=
    Job.run_after (world.getWaits ref.index) _ (world.noteAt ref.index (.started .get ref.name))
  rw [run, late, look.gets, after_get]
  exact ⟨acted.1, look.moves_of places ((World.cells places).moves_trans acted.2 ended)⟩

theorem put_async_abides (ref : TierRef) (key value : Json) (world : World) (member : ref.index ∈ places)
    (valid : (look.cells places).valid world) :
    Poll.Abides ((look.cells places).Leaves [ref.index]) ((look.cells places).Confined [ref.index])
      (fun answer now => (look.cells places).Written key value [ref.index] (fun index => look.of (world.state? index))
        [answer] now) world ((tier ref).putAsync key value world) := by
  have composes := (look.cells places).composes_confined [ref.index]
  have confined (before after : World) (state : Option TierState)
      (moves : (World.cells places).Moves 0 before (Function.update before.state? ref.index state) after) :
      (look.cells places).Confined [ref.index] before after := by
    refine ⟨fun _ => ⟨moves.valid, ?_⟩, moves.asked⟩
    intro place other
    have away : place ≠ ref.index := by simpa using other
    have kept := congrFun (look.moves_of places moves).contents place
    rw [Function.update_of_ne away] at kept
    exact kept
  have noted := note_at_moves places ref.index (.started .put ref.name) world rfl valid
  have step : (look.cells places).Confined [ref.index] world (world.noteAt ref.index (.started .put ref.name)) :=
    ⟨fun _ => ⟨noted.valid, fun place _ => congrArg look.of (congrFun noted.contents place)⟩, noted.asked⟩
  refine Poll.abides_after_step composes.trans step
    (Job.after_abides ((look.cells places).composes_leaves [ref.index]) composes.refl ?_)
  intro now leaves
  obtain ⟨still, kept⟩ := leaves noted.valid
  have here : look.of (now.state? ref.index) = look.of (world.state? ref.index) :=
    (kept ref.index (by simp)).trans (congrArg look.of (congrFun noted.contents ref.index))
  have stored := look.puts key value (now.state? ref.index)
  rw [here] at stored
  obtain ⟨answered, moves⟩ := put_moves places ref.index key value now member still
  rw [put_late_eq places ref.index key value now member still]
  have ended := note_at_moves places ref.index (.ended .put ref.name) _ rfl moves.valid
  have contents : World.state? _ = _ := moves.contents
  rw [contents] at ended
  have final := (World.cells places).moves_trans moves ended
  refine ⟨confined now _ _ final, final.valid, ?_, ?_⟩
  · exact congrArg (fun answer => [answer]) (answered.trans (congrArg Prod.fst stored).symm)
  · simp only [List.forall_mem_singleton]
    have written := congrFun (look.moves_of places final).contents ref.index
    simp only [Cells.afterPut, Function.update_self] at written
    exact written.trans (congrArg Prod.snd stored).symm

theorem tier_runs_late (ref : TierRef) (member : ref.index ∈ places) :
    (look.cells places).RunsLate ref.index (tier ref) where
  getAsync := fun key world valid => look.get_async_moves places ref key world member valid
  putAsync := fun key value world valid => look.put_async_abides places ref key value world member valid

theorem gives_late_of {A : Type} {given : A} {origin : Job World A} (gives : (World.cells places).GivesLate given origin) :
    (look.cells places).GivesLate given origin :=
  fun world valid => ⟨(gives world valid).1, look.moves_of places (gives world valid).2⟩

def untimed : Look (Option TierState) where
  of := Option.map fun state =>
    match state with
    | .scripted scripted => .scripted { scripted with getWaits := 0, putWaits := 0 }
    | other => other
  get := getState
  put := putState
  gets := by
    intro key state
    rcases state with _ | _ | scripted | _
    · rfl
    · rfl
    · simp only [Option.map_some, getState, Scripted.get]
      rcases Fault.next scripted.getFault with ⟨_ | error, later⟩
      · rfl
      · rfl
    · rfl
  puts := by
    intro key value state
    rcases state with _ | _ | scripted | _
    · rfl
    · rfl
    · simp only [Option.map_some, putState, Scripted.put]
      rcases Fault.next scripted.putFault with ⟨_ | error, later⟩
      · rfl
      · rfl
    · rfl

end Look

theorem tier_runs (places : List Nat) (ref : TierRef) (member : ref.index ∈ places) :
    (cells places).Runs ref.index (tier ref) where
  get := fun key world valid => noted_get_moves places ref.index (.called .get ref.name) key world rfl member valid
  put := fun key value world valid => noted_put_moves places ref.index (.called .put ref.name) key value world rfl member valid
  compute := fun key world valid => compute_moves places ref key world member valid
  getAsync := (Look.whole.tier_runs_late places ref member).getAsync
  putAsync := (Look.whole.tier_runs_late places ref member).putAsync

theorem note_moves (places : List Nat) (entry : Entry) (world : World) (counts : asksOrigin entry = true)
    (valid : (cells places).valid world) : (cells places).Moves 1 world world.state? (world.note entry) :=
  ⟨valid, rfl, asked_note_origin entry world counts⟩

theorem origin_action_gives {A : Type} (places : List Nat) (given : A) :
    (cells places).Gives given (Session.originAction given) :=
  fun world valid => ⟨rfl, note_moves places .origin world rfl valid⟩

theorem origin_job_gives {A : Type} (places : List Nat) (given : A) (waits : Nat) :
    (cells places).GivesLate given (Session.originJob given waits) := by
  intro world valid
  have started := note_moves places .originStarted world rfl valid
  have run : (Session.originJob given waits).run world = (given, (world.note .originStarted).note .originEnded) :=
    Job.run_after waits _ (world.note .originStarted)
  rw [run]
  exact ⟨rfl, started.valid, rfl, (asked_note .originEnded _ rfl).trans started.asked⟩

end CacheTiers.World
