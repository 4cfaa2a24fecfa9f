import CacheTiers.Proofs.Resolve.View
import CacheTiers.Proofs.World.Cells

namespace CacheTiers.World

def entryOf : Option TierState → Json → Option Json
  | some (.memory memory), key => memory.find? key
  | some (.scripted scripted), key => scripted.entries.find? key
  | _, _ => none

def maps (places : List Nat) : View Nat World Json Json where
  valid := (cells places).valid
  held := fun index world => entryOf (world.state? index)
  asked := asked

theorem entry_get (key : Json) (state : Option TierState) : entryOf (getState key state).2 = entryOf state := by
  cases state with
  | none => rfl
  | some tier =>
      cases tier with
      | redis tier => rfl
      | memory memory => rfl
      | scripted scripted =>
          simp only [getState, Scripted.get]
          split <;> rfl

theorem entry_read (key : Json) (state : Option TierState) (found : Option Json)
    (answered : (getState key state).1 = .ok found) : found = entryOf state key := by
  cases state with
  | none => exact (Except.ok.inj answered).symm
  | some tier =>
      cases tier with
      | redis tier => exact (Except.ok.inj answered).symm
      | memory memory => exact (Except.ok.inj answered).symm
      | scripted scripted =>
          simp only [getState, Scripted.get] at answered
          split at answered
          · cases answered
          · exact (Except.ok.inj answered).symm

theorem entry_insert (memory : Memory Json Json) (key value other : Json) :
    (memory.insert key value).find? other = memory.find? other ∨
      other = key ∧ (memory.insert key value).find? other = some value := by
  by_cases keeps : memory.keeps
  · by_cases same : other = key
    · refine .inr ⟨same, ?_⟩
      simp_all [Memory.insert, Memory.find?, Memory.keeps]
    · apply Or.inl
      simp_all [Memory.insert, Memory.find?, Memory.keeps]
  · exact .inl (by simp [Memory.insert, keeps])

theorem entry_put (key value other : Json) (state : Option TierState) :
    entryOf (putState key value state).2 other = entryOf state other ∨
      other = key ∧ entryOf (putState key value state).2 other = some value := by
  cases state with
  | none => exact .inl rfl
  | some tier =>
      cases tier with
      | redis tier => exact .inl rfl
      | memory memory => exact entry_insert memory key value other
      | scripted scripted =>
          simp only [putState, Scripted.put]
          split
          · exact .inl rfl
          · by_cases same : other = key
            · exact .inr ⟨same, by simp [entryOf, same]⟩
            · exact .inl (by simp [entryOf, same])

variable (places : List Nat)

theorem same_of_moves (before after : World) (contents : Nat → Option TierState)
    (moves : (cells places).Moves 0 before contents after)
    (entries : ∀ place, entryOf (contents place) = entryOf (before.state? place)) : (maps places).Same before after :=
    by
  refine ⟨fun _ => ⟨moves.valid, ?_⟩, moves.asked⟩
  intro place
  have now : after.state? = contents := moves.contents
  simp only [maps, now, entries place]

theorem get_same (index : Nat) (key : Json) (before after : World)
    (moves : (cells places).Moves 0 before ((cells places).afterGet index key before.state?) after) :
    (maps places).Same before after := by
  apply same_of_moves places before after _ moves
  intro place
  by_cases same : place = index
  · subst same
    rw [Cells.afterGet, Function.update_self]
    exact entry_get key (before.state? place)
  · rw [Cells.afterGet, Function.update_of_ne same]

theorem put_adds (index : Nat) (key value : Json) (before after : World)
    (moves : (cells places).Moves 0 before ((cells places).afterPut index key value before.state?) after) :
    (maps places).Adds key value before after := by
  refine ⟨fun _ => ⟨moves.valid, ?_⟩, moves.asked⟩
  intro place other
  have now : after.state? = (cells places).afterPut index key value before.state? := moves.contents
  simp only [maps, now, Cells.afterPut]
  by_cases same : place = index
  · subst same
    rw [Function.update_self]
    exact entry_put key value other (before.state? place)
  · rw [Function.update_of_ne same]
    exact .inl rfl

theorem note_at_same (index : Nat) (entry : Entry) (world : World) (other : asksOrigin entry = false) :
    (maps places).Same world (world.noteAt index entry) := by
  refine ⟨?_, asked_note_at index entry world other⟩
  intro valid
  have noted := note_at_moves places index entry world other valid
  exact (same_of_moves places world _ _ noted (fun _ => rfl)).1 valid

theorem noted_get_reads (index : Nat) (entry : Entry) (key : Json) (world : World) (other : asksOrigin entry = false)
    (member : index ∈ places) (valid : (maps places).valid world) :
    (maps places).Same world ((world.noteAt index entry).get index key).2 ∧
      (maps places).Reads index key world ((world.noteAt index entry).get index key).1 := by
  obtain ⟨answered, moves⟩ := noted_get_moves places index entry key world other member valid
  refine ⟨get_same places index key world _ moves, ?_⟩
  intro found same
  exact entry_read key (world.state? index) found (answered.symm.trans same)

theorem noted_put_adds (index : Nat) (entry : Entry) (key value : Json) (world : World)
    (other : asksOrigin entry = false)
    (member : index ∈ places) (valid : (maps places).valid world) :
    (maps places).Adds key value world ((world.noteAt index entry).put index key value).2 :=
  put_adds places index key value world _ (noted_put_moves places index entry key value world other member valid).2

theorem enter_adds (index : Nat) (key : Json) (told : Lookup Json) (world : World) (valid : (maps places).valid world) :
    (maps places).Keeps key told world (world.enter index key told).1 (world.enter index key told).2 := by
  have still := (maps places).composes_same.refl world
  rw [enter]
  split
  case h_1 memory read =>
    have entered (later : Memory Json Json) :=
      set_state_moves places index (.memory memory) (.memory later) world read trivial valid
    have unmoved : (maps places).Same world (world.setState index (.memory memory)) := by
      apply same_of_moves places world _ _ (entered memory)
      intro place
      rw [← read, Function.update_eq_self]
    cases told with
    | error error => exact ⟨unmoved, rfl⟩
    | ok found =>
        cases found with
        | none => exact ⟨unmoved, fun found same => by cases same; rfl⟩
        | some value =>
            have stored : (cells places).afterPut index key value world.state? =
                Function.update world.state? index (some (.memory (memory.insert key value))) := by
              rw [Cells.afterPut, read]
              rfl
            exact ⟨put_adds places index key value world _ (stored ▸ entered _), fun found same => by cases same; rfl⟩
  case h_2 =>
    cases told with
    | error error => exact ⟨still, rfl⟩
    | ok found =>
        cases found with
        | none => exact ⟨still, fun found same => by cases same; rfl⟩
        | some value =>
            exact ⟨(maps places).adds_of_same key value _ _ still, fun found same => by cases same; rfl⟩

theorem compute_reads (ref : TierRef) (key : Json) (world : World) (member : ref.index ∈ places)
    (valid : (maps places).valid world) : (maps places).Consults ref.index key world (compute ref key world) := by
  have noted := note_at_same places ref.index (.called .compute ref.name) world rfl
  obtain ⟨state, read, isMap⟩ := valid ref.index member
  simp only [compute, read]
  cases state with
  | redis tier => exact isMap.elim
  | memory memory =>
      have held : (maps places).held ref.index world key = memory.find? key := by simp [maps, read, entryOf]
      dsimp only
      cases found : memory.find? key with
      | some value => exact ⟨noted, fun answer same => by cases same; rw [held, found]⟩
      | none =>
          refine ⟨noted, by rw [held, found], ?_⟩
          intro told later lawful
          exact enter_adds places ref.index key told later lawful
  | scripted scripted =>
      have usual : scripted.manner = .usual := isMap
      simp only [usual]
      exact (maps places).get_then_put_consults _ _ ref.index key world
        (noted_get_reads places ref.index (.called .get ref.name) key world rfl member valid)
        (fun value later lawful => noted_put_adds places ref.index (.called .put ref.name) key value later rfl member lawful)

theorem get_async_reads (ref : TierRef) (key : Json) (world : World) (member : ref.index ∈ places)
    (valid : (maps places).valid world) :
    Poll.Abides Eq (maps places).Same (fun answer _ => (maps places).Reads ref.index key world answer) world
      ((tier ref).getAsync key world) := by
  have composes := (maps places).composes_same
  have noted := note_at_same places ref.index (.started .get ref.name) world rfl
  obtain ⟨still, kept⟩ := noted.1 valid
  refine Poll.abides_after_step composes.trans noted (Job.after_abides composes_eq composes.refl ?_)
  rintro now rfl
  rw [get_late_eq places ref.index key _ member still]
  obtain ⟨answered, moves⟩ := get_moves places ref.index key _ member still
  have same := get_same places ref.index key _ _ moves
  have ended := note_at_same places ref.index (.ended .get ref.name)
    ((world.noteAt ref.index (.started .get ref.name)).get ref.index key).2 rfl
  refine ⟨composes.trans _ _ _ same ended, ?_⟩
  intro found given
  rw [note_at_state] at answered
  exact entry_read key (world.state? ref.index) found (answered.symm.trans given)

theorem put_async_adds (ref : TierRef) (key value : Json) (world : World) (member : ref.index ∈ places)
    (valid : (maps places).valid world) :
    Poll.Abides (maps places).Stays ((maps places).Adds key value) (fun _ _ => True) world
      ((tier ref).putAsync key value world) := by
  have composes := (maps places).composes_adds key value
  have noted := note_at_same places ref.index (.started .put ref.name) world rfl
  refine Poll.abides_after_step composes.trans ((maps places).adds_of_same key value _ _ noted)
    (Job.after_abides (maps places).composes_stays composes.refl ?_)
  intro now stays
  have lawful := stays (noted.1 valid).1
  rw [put_late_eq places ref.index key value now member lawful]
  have adds := put_adds places ref.index key value now _ (put_moves places ref.index key value now member lawful).2
  have ended := note_at_same places ref.index (.ended .put ref.name) (now.put ref.index key value).2 rfl
  exact ⟨composes.trans _ _ _ adds ((maps places).adds_of_same key value _ _ ended), trivial⟩

theorem tier_mapped (ref : TierRef) (member : ref.index ∈ places) : (maps places).Mapped ref.index (tier ref) where
  get := fun key world valid =>
    noted_get_reads places ref.index (.called .get ref.name) key world rfl member valid
  put := fun key value world valid =>
    noted_put_adds places ref.index (.called .put ref.name) key value world rfl member valid
  compute := fun key world valid => compute_reads places ref key world member valid
  getAsync := fun key world valid => get_async_reads places ref key world member valid
  putAsync := fun key value world valid => put_async_adds places ref key value world member valid

theorem note_rests (entry : Entry) (world : World) : (maps places).Rests world (world.note entry) :=
  fun valid => ⟨valid, fun _ => rfl⟩

theorem origin_action_asks {A : Type} (given : A) : (maps places).Asks (Session.originAction given) :=
  fun world => ⟨note_rests places .origin world, asked_note_origin .origin world rfl⟩

theorem origin_job_asks_late {A : Type} (given : A) (waits : Nat) :
    (maps places).AsksLate (Session.originJob given waits) := by
  intro world
  have started : (maps places).Consulted world (world.note .originStarted) :=
    ⟨note_rests places .originStarted world, asked_note_origin .originStarted world rfl⟩
  have ends (now : World) : (maps places).Same now (now.note .originEnded) :=
    ⟨note_rests places .originEnded now, asked_note .originEnded now rfl⟩
  cases waits with
  | zero =>
      exact ⟨(maps places).composes_rests.trans _ _ _ started.1 (ends _).1, (ends _).2.trans started.2⟩
  | succ waits =>
      refine ⟨started, Job.after_abides composes_eq (maps places).composes_same.refl ?_⟩
      rintro now rfl
      exact ⟨ends _, trivial⟩

end CacheTiers.World
