import CacheTiers.Proofs.Resolve.Stores
import CacheTiers.Proofs.World.Maps

namespace CacheTiers.World

def IsStore : TierState → Prop
  | .memory memory => memory.keeps = true
  | .scripted scripted => scripted.manner = .usual
  | .redis _ => False

-- What the tiers of a stack hold, by their places in the stack, where the slots are listed in the order of the stack.
def stock (places : List Nat) : Holdings World (Nat → Json → Option Json) where
  valid := fun world => ∀ index ∈ places, ∃ state, world.state? index = some state ∧ IsStore state
  contents := fun world place => entryOf (places[place]?.bind world.state?)

theorem is_map_of_store {state : TierState} (store : IsStore state) : IsMap state := by
  cases state with
  | memory memory => trivial
  | scripted scripted => exact store
  | redis tier => exact store.elim

theorem get_state_store (key : Json) (state : TierState) (store : IsStore state) :
    ∃ later, (getState key (some state)).2 = some later ∧ IsStore later := by
  cases state with
  | redis tier => exact store.elim
  | memory memory => exact ⟨_, rfl, store⟩
  | scripted scripted =>
      refine ⟨.scripted (Scripted.get key scripted).2, rfl, ?_⟩
      simp only [Scripted.get]
      split <;> exact store

theorem put_state_store (key value : Json) (state : TierState) (store : IsStore state) :
    ∃ later, (putState key value (some state)).2 = some later ∧ IsStore later ∧
      entryOf (some later) = taken key value (putState key value (some state)).1 (entryOf (some state)) := by
  cases state with
  | redis tier => exact store.elim
  | memory memory =>
      refine ⟨.memory (memory.insert key value), rfl, ?_, funext fun other => ?_⟩
      · have keeps : memory.keeps = true := store
        simp only [IsStore, Memory.insert, if_pos keeps]
        exact keeps
      · have keeps : memory.ttl ≠ some 0 := by simpa [IsStore, Memory.keeps] using store
        by_cases same : other = key
        · simp [entryOf, putState, taken, Memory.insert, Memory.find?, Memory.keeps, keeps, same]
        · simp [entryOf, putState, taken, Memory.insert, Memory.find?, Memory.keeps, keeps, same]
  | scripted scripted =>
      refine ⟨.scripted (Scripted.put key value scripted).2, rfl, ?_, funext fun other => ?_⟩
      · simp only [Scripted.put]
        split <;> exact store
      · simp only [entryOf, putState, Scripted.put]
        split
        · rfl
        · by_cases same : other = key
          · simp [taken, same]
          · simp [taken, same, entryOf]

variable {places : List Nat}

theorem cells_valid_of_stock {world : World} (valid : (stock places).valid world) : (cells places).valid world := by
  intro index member
  obtain ⟨state, read, store⟩ := valid index member
  exact ⟨state, read, is_map_of_store store⟩

theorem stock_updated {before after : World} {index : Nat} {later : TierState} (valid : (stock places).valid before)
    (store : IsStore later)
    (moves : (cells places).Moves 0 before (Function.update before.state? index (some later)) after) :
    (stock places).valid after ∧ ∀ place,
      (stock places).contents after place =
        if places[place]? = some index then entryOf (some later) else (stock places).contents before place := by
  have now : after.state? = Function.update before.state? index (some later) := moves.contents
  constructor
  · intro other member
    rw [now]
    by_cases here : other = index
    · subst here
      exact ⟨later, Function.update_self .., store⟩
    · rw [Function.update_of_ne here]
      exact valid other member
  · intro place
    simp only [stock, now]
    cases found : places[place]? with
    | none => simp
    | some other =>
        by_cases here : other = index
        · subst here
          simp
        · rw [Option.bind_some, Option.bind_some, Function.update_of_ne here, if_neg (by simpa using here)]

theorem stock_noted (index : Nat) (entry : Entry) (world : World) :
    (stock places).Still world (world.noteAt index entry) := by
  have now : (world.noteAt index entry).state? = world.state? := funext fun place => note_at_state index place entry world
  intro valid
  simp only [stock, now]
  exact ⟨valid, trivial⟩

theorem stock_read {index : Nat} {key : Json} {before after : World} (member : index ∈ places)
    (moves : (stock places).valid before →
      (cells places).Moves 0 before ((cells places).afterGet index key before.state?) after) :
    (stock places).Still before after := by
  intro valid
  obtain ⟨state, read, store⟩ := valid index member
  obtain ⟨later, given, kept⟩ := get_state_store key state store
  have same : entryOf (some later) = entryOf (some state) := given ▸ entry_get key (some state)
  have moved := moves valid
  rw [Cells.afterGet, read] at moved
  obtain ⟨still, entries⟩ := stock_updated valid kept (given ▸ moved)
  refine ⟨still, funext fun place => ?_⟩
  rw [entries place]
  by_cases here : places[place]? = some index
  · rw [if_pos here, same]
    simp only [stock, here, Option.bind_some, read]
  · rw [if_neg here]

theorem put_stocks {place index : Nat} {key value : Json} {before after : World} {answer : Except CacheError Unit}
    (distinct : places.Nodup) (found : places[place]? = some index) (valid : (stock places).valid before)
    (answered : answer = (putState key value (before.state? index)).1)
    (moves : (cells places).Moves 0 before ((cells places).afterPut index key value before.state?) after) :
    (stock places).Confined place before after ∧ (stock places).Took place key value before answer after := by
  obtain ⟨state, read, store⟩ := valid index (List.mem_of_getElem? found)
  obtain ⟨later, given, kept, entered⟩ := put_state_store key value state store
  rw [Cells.afterPut, read] at moves
  obtain ⟨still, entries⟩ := stock_updated valid kept (given ▸ moves)
  refine ⟨fun _ => ⟨still, ?_⟩, still, ?_⟩
  · intro other away
    rw [entries other]
    apply if_neg
    intro again
    obtain ⟨within, _⟩ := List.getElem?_eq_some_iff.mp again
    exact away ((List.getElem?_inj within distinct).mp (again.trans found.symm))
  · rw [entries place, if_pos found, entered, answered, read]
    simp only [stock, found, Option.bind_some, read]

theorem tier_stores (ref : TierRef) (place : Nat) (distinct : places.Nodup) (found : places[place]? = some ref.index) :
    (stock places).Stores place (tier ref) where
  get := by
    intro key world
    have member := List.mem_of_getElem? found
    exact stock_read member fun valid => ((tier_runs places ref member).get key world (cells_valid_of_stock valid)).2
  put := by
    intro key value world valid
    have member := List.mem_of_getElem? found
    obtain ⟨answered, moves⟩ := (tier_runs places ref member).put key value world (cells_valid_of_stock valid)
    exact put_stocks distinct found valid answered moves

theorem tier_stores_late (ref : TierRef) (place : Nat) (distinct : places.Nodup)
    (found : places[place]? = some ref.index) : (stock places).StoresLate place (tier ref) where
  getAsync := by
    intro key world
    have member := List.mem_of_getElem? found
    exact stock_read member fun valid => ((tier_runs places ref member).getAsync key world (cells_valid_of_stock valid)).2
  putAsync := by
    intro key value world valid
    have member := List.mem_of_getElem? found
    have noted (index : Nat) (entry : Entry) (now : World) : (stock places).Confined place now (now.noteAt index entry) :=
      fun lawful => ⟨(stock_noted index entry now lawful).1,
        fun other _ => congrFun (stock_noted index entry now lawful).2 other⟩
    refine Poll.abides_after_step ((stock places).composes_spares (· ≠ place)).trans
      (noted ref.index (.started .put ref.name) world)
      (Job.after_abides ((stock places).composes_spares (· = place)) ((stock places).composes_spares (· ≠ place)).refl ?_)
    intro now left
    obtain ⟨begun, same⟩ := stock_noted ref.index (.started .put ref.name) world valid
    obtain ⟨lawful, kept⟩ := left begun
    have here := (kept place rfl).trans (congrFun same place)
    obtain ⟨answered, moves⟩ := put_moves places ref.index key value now member (cells_valid_of_stock lawful)
    obtain ⟨confined, took, entered⟩ := put_stocks distinct found lawful answered moves
    rw [put_late_eq places ref.index key value now member (cells_valid_of_stock lawful)]
    obtain ⟨ended, unchanged⟩ := stock_noted ref.index (.ended .put ref.name) _ took
    refine ⟨((stock places).composes_spares (· ≠ place)).trans _ _ _ confined (noted ref.index (.ended .put ref.name) _), ended,
      ?_⟩
    rw [congrFun unchanged place, entered, here]

end CacheTiers.World
