import CacheTiers.Proofs.Manager.History
import Mathlib.Data.List.Induction

namespace CacheTiers

variable {E : Type}

namespace Request

structure Settled (config : Option Config) (manager : Manager) : Prop where
  tiers : manager.registry.tiers = (config.elim .empty Registry.ofConfig).tiers
  operations : manager.registry.operations = (config.elim .empty Registry.ofConfig).operations
  known : ∀ stand ref, manager.registry.registered.find? stand = some ref →
    manager.registry.tiers.contains stand.tier = true
  stands : ∀ stand ref, manager.registry.registered.find? stand = some ref →
    ref.index < manager.context.world.slots.length

theorem cleared_settled (config : Option Config) (manager : Manager)
    (registry : manager.registry = config.elim .empty Registry.ofConfig) : Settled config manager := by
  have unregistered (stand : Stand) : manager.registry.registered.find? stand = none := by
    rw [registry]
    cases config with
    | none => rfl
    | some config => rfl
  refine ⟨by rw [registry], by rw [registry], ?_, ?_⟩
  · intro stand ref found
    rw [unregistered] at found
    cases found
  · intro stand ref found
    rw [unregistered] at found
    cases found

theorem settled_of_same {config : Option Config} {manager after : Manager} (settled : Settled config manager)
    (tiers : after.registry.tiers = manager.registry.tiers)
    (operations : after.registry.operations = manager.registry.operations)
    (registered : after.registry.registered = manager.registry.registered)
    (grown : manager.context.world.slots.length ≤ after.context.world.slots.length) : Settled config after where
  tiers := tiers.trans settled.tiers
  operations := operations.trans settled.operations
  known := by
    intro stand ref found
    rw [registered] at found
    rw [tiers]
    exact settled.known stand ref found
  stands := by
    intro stand ref found
    rw [registered] at found
    exact Nat.lt_of_lt_of_le (settled.stands stand ref found) grown

theorem moves_settled {config : Option Config} {manager after : Manager} {moved : Option (Option Config)}
    (settled : Settled config manager) (moves : Moves manager after moved)
    (grown : manager.context.world.slots.length ≤ after.context.world.slots.length) :
    Settled (moved.getD config) after := by
  cases moves with
  | cleared config registry => exact cleared_settled config after registry
  | kept registry =>
      exact settled_of_same settled (by rw [registry]) (by rw [registry]) (by rw [registry]) grown
  | registered stand ref known stands registry =>
      refine ⟨by rw [registry]; exact settled.tiers, by rw [registry]; exact settled.operations, ?_, ?_⟩
      · intro other twin found
        rw [registry] at found ⊢
        rw [Table.find?_insert] at found
        by_cases same : other = stand
        · rw [same]
          exact known
        · rw [if_neg same] at found
          exact settled.known other twin found
      · intro other twin found
        rw [registry, Table.find?_insert] at found
        by_cases same : other = stand
        · rw [if_pos same] at found
          obtain rfl := Option.some.inj found
          exact Nat.lt_of_lt_of_le stands grown
        · rw [if_neg same] at found
          exact Nat.lt_of_lt_of_le (settled.stands other twin found) grown
  | built name signature operation world unbuilt made more registry =>
      exact settled_of_same settled (by rw [registry]) (by rw [registry]) (by rw [registry]) grown

theorem after_settled (context : Context World) (history : List (Request E)) :
    Settled (current history) (after history ⟨.empty, context⟩) := by
  induction history using List.reverseRecOn with
  | nil => exact cleared_settled none ⟨.empty, context⟩ rfl
  | append_singleton history request ih =>
      obtain ⟨moves, grown⟩ := request.run_moves (after history ⟨.empty, context⟩)
      rw [after_one, current_one]
      exact moves_settled ih moves grown

theorem configures_accepted (request : Request E) (config : Config) (starts : request.configures = some (some config)) :
    config.check = .ok () := by
  have accepted (given : Option Config) (taken : (given.bind Config.accepted?).map some = some (some config)) :
      config.check = .ok () := by
    obtain ⟨_, found, same⟩ := Option.map_eq_some_iff.mp taken
    obtain ⟨_, rfl, passes⟩ := Option.bind_eq_some_iff.mp found
    cases same
    rw [Config.accepted?] at passes
    split at passes
    · next checked =>
        obtain rfl := Option.some.inj passes
        exact checked
    · cases passes
  cases request with
  | init given => exact accepted (some given) starts
  | initFromFile content => exact accepted (Config.ofFile content).toOption starts
  | reset => cases starts
  | operationNames => cases starts
  | make state noted => cases starts
  | register stand place => cases starts
  | operation name signature => cases starts
  | resolve call polls => cases starts

theorem current_well_formed (history : List (Request E)) (config : Config) (now : current history = some config) :
    config.WellFormed := by
  induction history using List.reverseRecOn with
  | nil => cases now
  | append_singleton history request ih =>
      rw [current_one] at now
      cases moved : request.configures with
      | none =>
          rw [moved] at now
          exact ih now
      | some given =>
          rw [moved] at now
          obtain rfl : given = some config := now
          exact (Config.check_ok config).mp (configures_accepted request config moved)

theorem moves_built {manager after : Manager} {name : String} {signature : Signature} {operation : Operation TierRef}
    (built : manager.registry.built.find? (name, signature) = some operation) (moves : Moves manager after none) :
    after.registry.built.find? (name, signature) = some operation := by
  cases moves with
  | kept registry => rw [registry, built]
  | registered stand ref known stands registry => rw [registry, built]
  | built other otherwise twin world unbuilt made grown registry =>
      have different : (name, signature) ≠ (other, otherwise) := by
        intro same
        rw [← same, built] at unbuilt
        cases unbuilt
      rw [registry, Table.find?_insert, if_neg different, built]

theorem after_built (later : List (Request E)) (manager : Manager) {name : String} {signature : Signature}
    {operation : Operation TierRef} (built : manager.registry.built.find? (name, signature) = some operation)
    (uncleared : ∀ request ∈ later, request.configures = none) :
    (after later manager).registry.built.find? (name, signature) = some operation := by
  induction later generalizing manager with
  | nil => exact built
  | cons request rest ih =>
      obtain ⟨first, others⟩ := List.forall_mem_cons.mp uncleared
      have moves := (request.run_moves manager).1
      rw [first] at moves
      exact ih _ (moves_built built moves) others

-- The manager was as `before` when one of the requests first built the descriptor, and was not cleared since.
def FirstBuilt (start : Manager) (history : List (Request E)) (name : String) (signature : Signature)
    (operation : Operation TierRef) (before : Manager) : Prop :=
  before.registry.built.find? (name, signature) = none ∧
    ∃ earlier request later, history = earlier ++ request :: later ∧ before = after earlier start ∧
      (request.run before).2.registry.built.find? (name, signature) = some operation ∧
      ∀ other ∈ request :: later, other.configures = none

theorem first_built_longer {start before : Manager} {history : List (Request E)} {name : String} {signature : Signature}
    {operation : Operation TierRef} (request : Request E) (uncleared : request.configures = none)
    (first : FirstBuilt start history name signature operation before) :
    FirstBuilt start (history ++ [request]) name signature operation before := by
  obtain ⟨unbuilt, earlier, building, later, same, reached, built, between⟩ := first
  refine ⟨unbuilt, earlier, building, later ++ [request], by rw [same]; simp, reached, built, ?_⟩
  intro other member
  rcases List.mem_append.mp (show other ∈ (building :: later) ++ [request] from member) with old | new
  · exact between other old
  · rw [List.mem_singleton.mp new]
    exact uncleared

theorem built_first (context : Context World) (history : List (Request E)) (name : String) (signature : Signature)
    (operation : Operation TierRef)
    (built : (after history ⟨.empty, context⟩).registry.built.find? (name, signature) = some operation) :
    ∃ before, FirstBuilt ⟨.empty, context⟩ history name signature operation before := by
  induction history using List.reverseRecOn generalizing operation with
  | nil => cases built
  | append_singleton history request ih =>
      rw [after_one] at built
      cases cleared : request.configures with
      | some config =>
          have moves := (request.run_moves (after history ⟨.empty, context⟩)).1
          rw [cleared] at moves
          cases moves with
          | cleared config registry =>
              rw [registry] at built
              cases config with
              | none => cases built
              | some config => cases built
      | none =>
          cases old : (after history ⟨.empty, context⟩).registry.built.find? (name, signature) with
          | none => exact ⟨_, old, history, request, [], rfl, rfl, built, by simpa using cleared⟩
          | some given =>
              have moves := (request.run_moves (after history ⟨.empty, context⟩)).1
              rw [cleared] at moves
              have kept := moves_built old moves
              rw [built] at kept
              obtain rfl := Option.some.inj kept
              obtain ⟨before, first⟩ := ih _ old
              exact ⟨before, first_built_longer request cleared first⟩

theorem first_built_moves {start before : Manager} {history : List (Request E)} {name : String} {signature : Signature}
    {operation : Operation TierRef} (first : FirstBuilt start history name signature operation before) :
    ∃ earlier request later world, history = earlier ++ request :: later ∧ before = after earlier start ∧
      current history = current earlier ∧
      before.registry.materialise name signature before.context.world = .ok (operation, world) ∧
      world.Upholds (request.run before).2.context.world ∧
      (request.run before).2.registry.built = before.registry.built.insert (name, signature) operation := by
  obtain ⟨unbuilt, earlier, request, later, same, reached, built, uncleared⟩ := first
  have moves := (request.run_moves before).1
  rw [(List.forall_mem_cons.mp uncleared).1] at moves
  have still : current history = current earlier := by rw [same, current_unchanged earlier _ uncleared]
  cases moves with
  | kept registry =>
      rw [registry, unbuilt] at built
      cases built
  | registered stand ref known stands registry =>
      rw [registry] at built
      dsimp only at built
      rw [unbuilt] at built
      cases built
  | built other otherwise twin world absent made grown registry =>
      rw [registry] at built
      rw [Table.find?_insert] at built
      by_cases equal : (name, signature) = (other, otherwise)
      · rw [if_pos equal] at built
        obtain rfl := Option.some.inj built
        cases equal
        exact ⟨earlier, request, later, world, same, reached, still, made, grown, by rw [registry]⟩
      · rw [if_neg equal, unbuilt] at built
        cases built

end Request

-- The descriptor is the one that its configuration asks for, when it was built in a manager that was as `before`.
structure Config.Describes (config : Config) (before : Manager) (name : String) (signature : Signature)
    (operation : Operation TierRef) : Prop where
  tables : before.registry.tiers = config.effectiveTiers
  made : (before.operation name signature).1 = .ok operation
  named : operation.name = name
  setup : ∃ setup, config.operations.find? name = some setup ∧ operation.keyParams = setup.key ∧
    operation.shape = setup.shape ∧
    List.Forall₂ (Registry.Supplied before.registry name signature before.context.world
      (before.operation name signature).2.context.world) setup.tiers operation.tiers

namespace Request

theorem first_built_describes (context : Context World) (history : List (Request E)) (name : String)
    (signature : Signature) (operation : Operation TierRef) (before : Manager)
    (first : FirstBuilt ⟨.empty, context⟩ history name signature operation before) :
    ∃ config, current history = some config ∧ config.Describes before name signature operation := by
  obtain ⟨earlier, request, later, world, _, reached, still, made, _, _⟩ := first_built_moves first
  obtain ⟨setup, states, configured, grown, supply, named, keyParams, shape⟩ := Registry.materialise_supply made
  have settled := after_settled context earlier
  rw [← reached] at settled
  rw [settled.operations] at configured
  rw [still]
  cases now : current earlier with
  | none =>
      rw [now] at configured
      cases configured
  | some config =>
      rw [now] at configured
      have tables := settled.tiers
      rw [now] at tables
      have looked := Manager.operation_made name signature operation world before first.1 made
      refine ⟨config, rfl, tables, by rw [looked], named, setup, configured, keyParams, shape, ?_⟩
      rw [looked]
      apply Registry.supply_supplied _ _ supply (Nat.le_refl _)
      intro place
      exact grown ▸ World.add_all_at states before.context.world place

theorem splits_compare {earlier sooner later further : List (Request E)} {request building : Request E}
    (equal : earlier ++ request :: later = sooner ++ building :: further) :
    (earlier = sooner ∧ request = building) ∨ (∃ between, sooner = earlier ++ request :: between) ∨
      ∃ between, earlier = sooner ++ building :: between := by
  rcases List.append_eq_append_iff.mp equal with ⟨between, longer, rest⟩ | ⟨between, longer, rest⟩
  · cases between with
    | nil => exact .inl ⟨by rw [longer, List.append_nil], (List.cons.inj rest).1⟩
    | cons next between =>
        obtain ⟨rfl, _⟩ := List.cons.inj rest
        exact .inr (.inl ⟨between, longer⟩)
  · cases between with
    | nil => exact .inl ⟨by rw [longer, List.append_nil], (List.cons.inj rest).1.symm⟩
    | cons next between =>
        obtain ⟨rfl, _⟩ := List.cons.inj rest
        exact .inr (.inr ⟨between, longer⟩)

theorem builds_ordered (start : Manager) (earlier between : List (Request E)) (request : Request E) :
    (request.run (after earlier start)).2.context.world.slots.length ≤
      (after (earlier ++ request :: between) start).context.world.slots.length := by
  rw [after_append, after_cons]
  exact after_grown between _

theorem first_built_within {history : List (Request E)} {name : String} {signature : Signature}
    {operation : Operation TierRef} {before : Manager} (world : World)
    (made : before.registry.materialise name signature before.context.world = .ok (operation, world))
    (settled : Settled (current history) before) :
    (∀ ref ∈ operation.tiers, ref.index < world.slots.length) ∧
      ∀ (place spot : Nat) (ref twin : TierRef), operation.tiers[place]? = some ref → operation.tiers[spot]? = some twin →
        place ≠ spot → before.context.world.slots.length ≤ ref.index → ref.index ≠ twin.index := by
  obtain ⟨setup, states, _, added, supply, _⟩ := Registry.materialise_supply made
  have size : world.slots.length = before.context.world.slots.length + states.length := by
    rw [added]
    simp [World.addAll]
  rw [size]
  refine ⟨Registry.supply_bounds supply settled.stands (Nat.le_refl _), ?_⟩
  exact fun place spot ref twin here there different fresh =>
    Registry.supply_apart supply settled.stands (Nat.le_refl _) place spot ref twin here there different fresh

-- The slot at one place of a descriptor was added when it was built.
def Own (start : Manager) (history : List (Request E)) (name : String) (signature : Signature) (place : Nat)
    (ref : TierRef) : Prop :=
  ∃ operation before, FirstBuilt start history name signature operation before ∧ operation.tiers[place]? = some ref ∧
    before.context.world.slots.length ≤ ref.index

theorem own_once (context : Context World) (history : List (Request E)) (name other : String)
    (signature otherwise : Signature) (place spot : Nat) (ref given : TierRef)
    (mine : Own ⟨.empty, context⟩ history name signature place ref)
    (yours : Own ⟨.empty, context⟩ history other otherwise spot given) (same : ref.index = given.index) :
    name = other ∧ signature = otherwise ∧ place = spot := by
  obtain ⟨operation, before, first, here, fresh⟩ := mine
  obtain ⟨twin, beside, second, there, also⟩ := yours
  have absent := second.1
  obtain ⟨earlier, request, later, world, split, reached, _, made, grown, added⟩ := first_built_moves first
  obtain ⟨sooner, building, further, around, equal, stood, _, built, widened, inserted⟩ := first_built_moves second
  replace grown := World.upholds_length grown
  replace widened := World.upholds_length widened
  have settled := after_settled context earlier
  have otherSettled := after_settled context sooner
  rw [← reached] at settled
  rw [← stood] at otherSettled
  obtain ⟨bounds, apart⟩ := first_built_within world made settled
  obtain ⟨otherBounds, _⟩ := first_built_within around built otherSettled
  have bound := bounds ref (List.mem_of_getElem? here)
  have otherBound := otherBounds given (List.mem_of_getElem? there)
  rcases splits_compare (split.symm.trans equal) with ⟨rfl, rfl⟩ | ⟨between, rfl⟩ | ⟨between, rfl⟩
  · obtain rfl : before = beside := reached.trans stood.symm
    have found : (request.run before).2.registry.built.find? (other, otherwise) = some twin := by
      rw [inserted, Table.find?_insert, if_pos rfl]
    rw [added, Table.find?_insert] at found
    by_cases equal : (other, otherwise) = (name, signature)
    · rw [if_pos equal] at found
      obtain rfl := Option.some.inj found
      cases equal
      refine ⟨rfl, rfl, ?_⟩
      by_contra different
      exact apart place spot ref given here there different fresh same
    · rw [if_neg equal, absent] at found
      cases found
  · have ordered := builds_ordered ⟨.empty, context⟩ earlier between request
    rw [← reached, ← stood] at ordered
    omega
  · have ordered := builds_ordered ⟨.empty, context⟩ sooner between building
    rw [← reached, ← stood] at ordered
    omega

end Request

namespace Manager

open Request

theorem operation_cached (name : String) (signature : Signature) (operation : Operation TierRef) (manager : Manager)
    (found : (manager.operation name signature).1 = .ok operation) :
    (manager.operation name signature).2.registry.built.find? (name, signature) = some operation := by
  cases built : manager.registry.built.find? (name, signature) with
  | some cached =>
      rw [operation_built _ _ _ manager built] at found ⊢
      rw [built, Except.ok.inj found]
  | none =>
      cases made : manager.registry.materialise name signature manager.context.world with
      | error error =>
          rw [operation_refused _ _ error manager built made] at found
          cases found
      | ok given =>
          rw [operation_made _ _ given.1 given.2 manager built made] at found ⊢
          rw [holding, Table.find?_insert, if_pos rfl, Except.ok.inj found]

theorem operation_at_params (site : CallSite) (shape : Shape) (manager : Manager) (operation : Operation TierRef)
    (passes : (manager.operationAt site shape).1 = .ok operation) : operation.keyParams = site.params := by
  rw [operationAt] at passes
  rcases looked : manager.operation site.operation (site.signature shape) with ⟨answer, later⟩
  rw [looked] at passes
  cases answer with
  | error error => cases passes
  | ok found =>
      by_cases fits : found.keyParams = site.params
      · simp only [checkCallSite, if_pos fits] at passes
        rw [← Except.ok.inj passes, fits]
      · simp only [checkCallSite, if_neg fits] at passes
        cases passes

section Histories

variable (context : Context World) (history : List (Request E))

theorem registered_current (stand : Stand) (ref : TierRef)
    (found : (after history ⟨.empty, context⟩).registry.registered.find? stand = some ref) :
    ∃ config, current history = some config ∧ config.tiers.contains stand.tier = true := by
  have settled := after_settled context history
  have known := settled.known stand ref found
  rw [settled.tiers] at known
  cases now : current history with
  | none =>
      rw [now] at known
      cases known
  | some config =>
      rw [now] at known
      have effective := find_map_values (fun tier => tier.withTtl (config.effectiveTtl tier)) stand.tier config.tiers
      simp only [Option.elim, Registry.ofConfig, Config.effectiveTiers, Table.contains, effective] at known
      exact ⟨config, rfl, by simpa [Table.contains] using known⟩

theorem cached_described (name : String) (signature : Signature) (operation : Operation TierRef)
    (built : (after history ⟨.empty, context⟩).registry.built.find? (name, signature) = some operation) :
    ∃ before config, FirstBuilt ⟨.empty, context⟩ history name signature operation before ∧
      current history = some config ∧ config.Describes before name signature operation := by
  obtain ⟨before, first⟩ := built_first context history name signature operation built
  obtain ⟨config, now, describes⟩ := first_built_describes context history name signature operation before first
  exact ⟨before, config, first, now, describes⟩

theorem lookup_stays (name : String) (signature : Signature) (operation : Operation TierRef) (manager : Manager)
    (found : (manager.operation name signature).1 = .ok operation) (later : List (Request E))
    (uncleared : ∀ request ∈ later, request.configures = none) :
    let final := after later (manager.operation name signature).2
    final.operation name signature = (.ok operation, final) :=
  operation_built name signature operation _
    (after_built later _ (operation_cached name signature operation manager found) uncleared)

theorem call_served (call : NamedCall E) (operation : Operation TierRef)
    (served : ((after history ⟨.empty, context⟩).operationAt call.site call.form.shape).1 = .ok operation) :
    let looked : Request E := .operation call.site.operation (call.site.signature call.form.shape)
    operation.keyParams = call.site.params ∧ ∃ before config,
      FirstBuilt ⟨.empty, context⟩ (history ++ [looked]) call.site.operation (call.site.signature call.form.shape)
        operation before ∧
      current history = some config ∧
      config.Describes before call.site.operation (call.site.signature call.form.shape) operation := by
  intro looked
  refine ⟨operation_at_params call.site call.form.shape _ operation served, ?_⟩
  have found := operation_at_found call.site call.form.shape _ operation served
  have cached := operation_cached _ _ operation _ found
  have described := cached_described context (history ++ [looked]) _ _ operation ((after_one history looked _).symm ▸ cached)
  rw [current_one] at described
  exact described

-- After any history: what is registered is a tier of the current configuration; what is cached was built as that
-- configuration asks, and has its own tiers to itself; what was found once is found until the registry is cleared; and
-- what serves a call was built under the configuration of now.
theorem registry_follows_history :
    let start : Manager := ⟨.empty, context⟩
    let manager := after history start
    (∀ stand ref, manager.registry.registered.find? stand = some ref →
      ∃ config, current history = some config ∧ config.tiers.contains stand.tier = true) ∧
    (∀ name signature operation, manager.registry.built.find? (name, signature) = some operation →
      ∃ before config, FirstBuilt start history name signature operation before ∧ current history = some config ∧
        config.Describes before name signature operation) ∧
    (∀ name other signature otherwise (place spot : Nat) (ref given : TierRef), Own start history name signature place ref →
      Own start history other otherwise spot given → ref.index = given.index →
        name = other ∧ signature = otherwise ∧ place = spot) ∧
    (∀ name signature operation, (manager.operation name signature).1 = .ok operation →
      ∀ later : List (Request E), (∀ request ∈ later, request.configures = none) →
        let final := after later (manager.operation name signature).2
        final.operation name signature = (.ok operation, final)) ∧
    ∀ call : NamedCall E,
      let found := manager.operationAt call.site call.form.shape
      let looked : Request E := .operation call.site.operation (call.site.signature call.form.shape)
      (call.run manager).1 = (call.resolved found.1 found.2.context).1 ∧
        ∀ operation, found.1 = .ok operation → operation.keyParams = call.site.params ∧ ∃ before config,
          FirstBuilt start (history ++ [looked]) call.site.operation (call.site.signature call.form.shape) operation before ∧
          current history = some config ∧
          config.Describes before call.site.operation (call.site.signature call.form.shape) operation := by
  intro start manager
  refine ⟨registered_current context history, cached_described context history, own_once context history, ?_, ?_⟩
  · exact fun name signature operation found => lookup_stays name signature operation manager found
  · intro call found looked
    refine ⟨?_, fun operation served => call_served context history call operation served⟩
    rw [call.run_resolved manager]

end Histories

def replacedConfig : Config where
  version := none
  defaultTtl := 60
  enableMetrics := false
  tiers := .ofList [("near", .memory ⟨10, none⟩), ("far", .memory ⟨10, none⟩)]
  operations := .ofList [("users", ⟨["near", "far"], ["id"], .plain⟩)]

def replacedStand : Stand := ⟨"near", .natural 64, .str⟩

def replacedSignature : Signature := ⟨.natural 64, .str, .plain⟩

def replacedRequests : List (Request String) :=
  [.init replacedConfig, .make (.memory (.new "mine" 10 none)) true, .register replacedStand 0,
    .make (.memory (.new "other" 10 none)) true]

def lateRequests : List (Request String) :=
  [.register replacedStand 1, .initFromFile (.error .notFound), .operation "lost" replacedSignature]

theorem late_registration_is_not_taken :
    let looked := (after replacedRequests Manager.empty).operation "users" replacedSignature
    let final := after lateRequests looked.2
    looked.1 = .ok ⟨"users", [⟨0, "mine"⟩, ⟨2, "far"⟩], ["id"], .plain, false⟩ ∧
      final.operation "users" replacedSignature = (looked.1, final) ∧
      final.registry.registered.find? replacedStand = some ⟨1, "other"⟩ := by
  intro looked final
  have found : looked.1 = .ok ⟨"users", [⟨0, "mine"⟩, ⟨2, "far"⟩], ["id"], .plain, false⟩ := by rfl
  have uncleared : ∀ request ∈ lateRequests, request.configures = none := by
    simp only [lateRequests, List.forall_mem_cons]
    exact ⟨rfl, rfl, rfl, List.forall_mem_nil _⟩
  have stays := (registry_follows_history Manager.empty.context replacedRequests).2.2.2.1 "users" replacedSignature _ found
    lateRequests uncleared
  refine ⟨found, ?_, by decide +kernel⟩
  rw [found]
  exact stays

end Manager

end CacheTiers
