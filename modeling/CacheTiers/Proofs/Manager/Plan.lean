import CacheTiers.Proofs.Manager.Build
import CacheTiers.Proofs.World.Linked

namespace CacheTiers

namespace Config

def plan (config : Config) (name : String) (signature : Signature) :
    Except CacheError (Operation TierRef × List TierState) :=
  match config.operations.find? name with
  | none => .error (.unknownOperation name)
  | some setup =>
    match (Registry.ofConfig config).statesFor name signature.value setup.tiers with
    | .error error => .error error
    | .ok states =>
      ((Registry.draftOf name setup (World.refsFrom 0 states)).build TierRef.name signature.shape).map fun operation =>
        (operation, states)

theorem plan_named (config : Config) (sound : config.WellFormed) (name : String) (signature : Signature)
    (operation : Operation TierRef) (states : List TierState)
    (planned : config.plan name signature = .ok (operation, states)) : SoundName name := by
  rw [plan] at planned
  cases configured : config.operations.find? name with
  | none => simp [configured] at planned
  | some setup => exact (sound.operations name setup configured).name

theorem state_for_made (name operation : String) (valueType : ValueType) (setup : TierSetup) (state : TierState)
    (made : Registry.stateFor name operation valueType setup = .ok state) : state.MadeFor operation := by
  cases setup with
  | memory setup =>
      cases made
      trivial
  | redis setup =>
      simp only [Registry.stateFor, RedisTier.new] at made
      split at made
      · cases made
      · cases made
        exact ⟨setup.keyPrefix.getD name, rfl⟩

theorem plan_made (config : Config) (name : String) (signature : Signature) (operation : Operation TierRef)
    (states : List TierState) (planned : config.plan name signature = .ok (operation, states)) :
    ∀ state ∈ states, state.MadeFor name := by
  rw [plan] at planned
  cases configured : config.operations.find? name with
  | none => simp [configured] at planned
  | some setup =>
      simp only [configured] at planned
      cases made : (Registry.ofConfig config).statesFor name signature.value setup.tiers with
      | error error => simp [made] at planned
      | ok all =>
          simp only [made] at planned
          have same : all = states := by
            cases built : (Registry.draftOf name setup (World.refsFrom 0 all)).build TierRef.name signature.shape with
            | error error => simp [built, Except.map] at planned
            | ok draft => simp_all [Except.map]
          rw [← same]
          exact Registry.states_for_each _ name signature.value setup.tiers all (TierState.MadeFor name)
            (fun tier setup state _ made => state_for_made tier name signature.value setup state made) made

end Config

namespace Registry

theorem states_for_built (registry : Registry) (built : Table (String × Signature) (Operation TierRef))
    (operation : String) (valueType : ValueType) (names : List String) :
    { registry with built }.statesFor operation valueType names = registry.statesFor operation valueType names := by
  induction names with
  | nil => rfl
  | cons name rest ih => simp only [statesFor, ih]

theorem materialise_planned (config : Config) (name : String) (signature : Signature) (world : World)
    (built : Table (String × Signature) (Operation TierRef)) :
    { ofConfig config with built }.materialise name signature world =
      (config.plan name signature).map fun planned =>
        ({ planned.1 with tiers := World.refsFrom world.slots.length planned.2 }, world.addAll planned.2) := by
  rw [Config.plan]
  cases configured : config.operations.find? name with
  | none =>
      have unknown : { ofConfig config with built }.operations.find? name = none := configured
      rw [materialise, unknown]
      rfl
  | some setup =>
      rw [materialise_states _ name signature setup world rfl configured, states_for_built]
      dsimp only
      cases (ofConfig config).statesFor name signature.value setup.tiers with
      | error error => rfl
      | ok states =>
          have names : (World.refsFrom world.slots.length states).map TierRef.name =
              (World.refsFrom 0 states).map TierRef.name := by
            rw [World.refs_from_name, World.refs_from_name]
          have like := Draft.build_like TierRef.name signature.shape (draftOf name setup (World.refsFrom 0 states)) _ names
          dsimp only
          have same : draftOf name setup (World.refsFrom world.slots.length states) =
            { draftOf name setup (World.refsFrom 0 states) with tiers := World.refsFrom world.slots.length states } := rfl
          rw [same, like]
          cases (draftOf name setup (World.refsFrom 0 states)).build TierRef.name signature.shape with
          | error error => rfl
          | ok operation => rfl

end Registry

namespace Manager

def Configured (config : Config) (manager : Manager) : Prop :=
  manager.registry = { Registry.ofConfig config with built := manager.registry.built }

def placed (manager : Manager) (planned : Operation TierRef × List TierState) : Operation TierRef :=
  { planned.1 with tiers := World.refsFrom manager.context.world.slots.length planned.2 }

def grown (name : String) (signature : Signature) (planned : Operation TierRef × List TierState) (manager : Manager) :
    Manager :=
  manager.holding name signature (manager.placed planned) (manager.context.world.addAll planned.2)

theorem operation_planned (config : Config) (name : String) (signature : Signature) (manager : Manager)
    (configured : manager.Configured config) (unbuilt : manager.registry.built.find? (name, signature) = none) :
    manager.operation name signature =
      match config.plan name signature with
      | .error error => (.error error, manager)
      | .ok planned => (.ok (manager.placed planned), manager.grown name signature planned) := by
  have made := Registry.materialise_planned config name signature manager.context.world manager.registry.built
  rw [← configured] at made
  cases found : config.plan name signature with
  | error error =>
      rw [found] at made
      exact operation_refused name signature error manager unbuilt made
  | ok planned =>
      rw [found] at made
      exact operation_made name signature _ _ manager unbuilt made

theorem grown_configured (config : Config) (name : String) (signature : Signature)
    (planned : Operation TierRef × List TierState) (manager : Manager) (configured : manager.Configured config) :
    (manager.grown name signature planned).Configured config := by
  rw [Configured, grown, holding]
  dsimp only
  rw [configured]

end Manager

end CacheTiers
