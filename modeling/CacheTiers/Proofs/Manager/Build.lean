import CacheTiers.Manager.Basic
import CacheTiers.Proofs.Operation.Gate
import CacheTiers.Proofs.World.Slots

namespace CacheTiers

namespace World

def refsFrom (start : Nat) : List TierState → List TierRef
  | [] => []
  | state :: rest => ⟨start, nameOf state⟩ :: refsFrom (start + 1) rest

def addAll (states : List TierState) (world : World) : World :=
  { world with slots := world.slots ++ states.map fun state => ⟨state, false⟩ }

theorem refs_from_index (start : Nat) (states : List TierState) :
    (refsFrom start states).map TierRef.index = List.range' start states.length := by
  induction states generalizing start with
  | nil => rfl
  | cons state rest ih =>
      rw [refsFrom, List.map_cons, ih, List.length_cons, List.range'_succ]

theorem refs_from_name (start : Nat) (states : List TierState) :
    (refsFrom start states).map TierRef.name = states.map nameOf := by
  induction states generalizing start with
  | nil => rfl
  | cons state rest ih => rw [refsFrom, List.map_cons, ih, List.map_cons]

theorem refs_from_inhabited (start : Nat) (states : List TierState) (inhabited : states ≠ []) :
    refsFrom start states ≠ [] := by
  cases states with
  | nil => exact absurd rfl inhabited
  | cons state rest => simp [refsFrom]

theorem add_all_old (states : List TierState) (world : World) (index : Nat) (bound : index < world.slots.length) :
    (world.addAll states).state? index = world.state? index := by
  simp [state?, addAll, List.getElem?_append_left bound]

theorem add_all_at (states : List TierState) (world : World) (place : Nat) :
    (world.addAll states).state? (world.slots.length + place) = states[place]? := by
  have behind : world.slots.length ≤ world.slots.length + place := Nat.le_add_right _ _
  simp [state?, addAll, List.getElem?_append_right behind, Function.comp_def]

theorem refs_from_bounds (start : Nat) (states : List TierState) (ref : TierRef)
    (member : ref ∈ refsFrom start states) :
    start ≤ ref.index ∧ ref.index < start + states.length := by
  have among : ref.index ∈ List.range' start states.length := by
    rw [← refs_from_index]
    exact List.mem_map_of_mem member
  exact List.mem_range'_1.mp among

theorem add_all_new (states : List TierState) (world : World) (ref : TierRef)
    (member : ref ∈ refsFrom world.slots.length states) :
    ∃ state ∈ states, (world.addAll states).state? ref.index = some state := by
  obtain ⟨lower, upper⟩ := refs_from_bounds _ _ ref member
  obtain ⟨place, same⟩ := Nat.exists_eq_add_of_le lower
  have bound : place < states.length := by omega
  refine ⟨states[place], List.getElem_mem bound, ?_⟩
  rw [same, add_all_at, List.getElem?_eq_getElem bound]

end World

namespace Registry

def stateFor (name operation : String) (valueType : ValueType) : TierSetup → Except CacheError TierState
  | .memory setup => .ok (.memory (.new name setup.capacity setup.ttl))
  | .redis setup =>
    (RedisTier.new name { setup with keyPrefix := some (operationPrefix name operation setup) } valueType).map .redis

def statesFor (registry : Registry) (operation : String) (valueType : ValueType) :
    List String → Except CacheError (List TierState)
  | [] => .ok []
  | name :: rest =>
    match registry.tiers.find? name with
    | none => .error (.unknownTier name)
    | some setup =>
      match stateFor name operation valueType setup with
      | .error error => .error error
      | .ok state => (statesFor registry operation valueType rest).map (state :: ·)

theorem fresh_tier_state (name operation : String) (valueType : ValueType) (setup : TierSetup) (world : World) :
    freshTier name operation valueType setup world =
      (stateFor name operation valueType setup).map fun state => world.add state false := by
  cases setup with
  | memory setup => rfl
  | redis setup =>
      simp only [freshTier, stateFor]
      cases RedisTier.new name { setup with keyPrefix := some (operationPrefix name operation setup) } valueType with
      | error error => rfl
      | ok tier => rfl

theorem tiers_for_states (registry : Registry) (operation : String) (signature : Signature) (names : List String)
    (world : World) (unregistered : registry.registered = .empty) :
    registry.tiersFor operation signature names world =
      (registry.statesFor operation signature.value names).map fun states =>
        (World.refsFrom world.slots.length states, world.addAll states) := by
  induction names generalizing world with
  | nil => simp [tiersFor, statesFor, Except.map, World.refsFrom, World.addAll]
  | cons name rest ih =>
      have absent : registry.registered.find? ⟨name, signature.key, signature.value⟩ = none := by
        rw [unregistered]
        rfl
      simp only [tiersFor, tierFor, absent, statesFor]
      cases registry.tiers.find? name with
      | none => rfl
      | some setup =>
          simp only [fresh_tier_state]
          cases stateFor name operation signature.value setup with
          | error error => rfl
          | ok state =>
              simp only [Except.map, bind, Except.bind, ih]
              cases registry.statesFor operation signature.value rest with
              | error error => rfl
              | ok states =>
                  simp [World.add, World.addAll, World.refsFrom, pure, Except.pure]

theorem state_for_name (name operation : String) (valueType : ValueType) (setup : TierSetup) (state : TierState)
    (made : stateFor name operation valueType setup = .ok state) : World.nameOf state = name := by
  cases setup with
  | memory setup =>
      cases made
      rfl
  | redis setup =>
      simp only [stateFor, RedisTier.new] at made
      split at made
      · cases made
      · cases made
        rfl

theorem states_for_cons {registry : Registry} {operation name : String} {valueType : ValueType} {rest : List String}
    {states : List TierState} (made : registry.statesFor operation valueType (name :: rest) = .ok states) :
    ∃ setup state later, registry.tiers.find? name = some setup ∧ stateFor name operation valueType setup = .ok state ∧
      registry.statesFor operation valueType rest = .ok later ∧ states = state :: later := by
  rw [statesFor] at made
  cases found : registry.tiers.find? name with
  | none => simp [found] at made
  | some setup =>
      simp only [found] at made
      cases first : stateFor name operation valueType setup with
      | error error => simp [first] at made
      | ok state =>
          simp only [first] at made
          cases others : registry.statesFor operation valueType rest with
          | error error => simp [others, Except.map] at made
          | ok later =>
              simp only [others, Except.map, Except.ok.injEq] at made
              exact ⟨setup, state, later, rfl, first, rfl, made.symm⟩

theorem states_for_names (registry : Registry) (operation : String) (valueType : ValueType) (names : List String)
    (states : List TierState) (made : registry.statesFor operation valueType names = .ok states) :
    states.map World.nameOf = names := by
  induction names generalizing states with
  | nil =>
      cases made
      rfl
  | cons name rest ih =>
      obtain ⟨setup, state, later, found, first, others, rfl⟩ := states_for_cons made
      rw [List.map_cons, state_for_name name operation valueType setup state first, ih later others]

theorem states_for_each (registry : Registry) (operation : String) (valueType : ValueType) (names : List String)
    (states : List TierState) (holds : TierState → Prop)
    (each : ∀ name setup state, registry.tiers.find? name = some setup →
      stateFor name operation valueType setup = .ok state → holds state)
    (made : registry.statesFor operation valueType names = .ok states) : ∀ state ∈ states, holds state := by
  induction names generalizing states with
  | nil =>
      cases made
      simp
  | cons name rest ih =>
      obtain ⟨setup, state, later, found, first, others, rfl⟩ := states_for_cons made
      exact List.forall_mem_cons.mpr ⟨each name setup state found first, ih later others⟩

def draftOf (name : String) (setup : OperationSetup) (tiers : List TierRef) : Draft TierRef :=
  ⟨name, tiers, setup.key, some setup.shape, false⟩

theorem materialise_states (registry : Registry) (name : String) (signature : Signature) (setup : OperationSetup)
    (world : World) (unregistered : registry.registered = .empty)
    (configured : registry.operations.find? name = some setup) :
    registry.materialise name signature world =
      match registry.statesFor name signature.value setup.tiers with
      | .error error => .error error
      | .ok states =>
        ((draftOf name setup (World.refsFrom world.slots.length states)).build TierRef.name signature.shape).map
          fun operation => (operation, world.addAll states) := by
  simp only [materialise, configured, tiers_for_states registry name signature setup.tiers world unregistered]
  cases registry.statesFor name signature.value setup.tiers with
  | error error => simp only [Except.map, bind, Except.bind]
  | ok states => simp only [Except.map, bind, Except.bind, draftOf, pure, Except.pure]

end Registry

namespace Manager

def holding (name : String) (signature : Signature) (operation : Operation TierRef) (world : World)
    (manager : Manager) : Manager where
  registry := { manager.registry with built := manager.registry.built.insert (name, signature) operation }
  context := { manager.context with world }

theorem operation_built (name : String) (signature : Signature) (operation : Operation TierRef) (manager : Manager)
    (built : manager.registry.built.find? (name, signature) = some operation) :
    manager.operation name signature = (.ok operation, manager) := by
  rw [Manager.operation, built]

theorem operation_made (name : String) (signature : Signature) (operation : Operation TierRef) (world : World)
    (manager : Manager) (unbuilt : manager.registry.built.find? (name, signature) = none)
    (made : manager.registry.materialise name signature manager.context.world = .ok (operation, world)) :
    manager.operation name signature = (.ok operation, manager.holding name signature operation world) := by
  rw [Manager.operation, unbuilt]
  dsimp only
  rw [made]
  rfl

theorem operation_refused (name : String) (signature : Signature) (error : CacheError) (manager : Manager)
    (unbuilt : manager.registry.built.find? (name, signature) = none)
    (refused : manager.registry.materialise name signature manager.context.world = .error error) :
    manager.operation name signature = (.error error, manager) := by
  rw [Manager.operation, unbuilt]
  dsimp only
  rw [refused]

theorem operation_at_fits (site : CallSite) (shape : Shape) (operation : Operation TierRef) (manager after : Manager)
    (found : manager.operation site.operation (site.signature shape) = (.ok operation, after))
    (params : operation.keyParams = site.params) : manager.operationAt site shape = (.ok operation, after) := by
  simp only [operationAt, found, checkCallSite, params, if_true]

theorem init_accepted (config : Config) (previous start : Manager) (accepted : previous.init config = (.ok (), start)) :
    config.WellFormed ∧ start.registry = .ofConfig config ∧ start.context.world = previous.context.world := by
  rw [init] at accepted
  split at accepted
  · cases accepted
  case h_2 checked =>
    cases accepted
    exact ⟨(Config.check_ok config).mp checked, rfl, rfl⟩

end Manager

end CacheTiers
