import CacheTiers.Proofs.Manager.Descriptors
import Mathlib.Data.List.Nodup

namespace CacheTiers

open Request

variable {E : Type}

namespace Registry

variable {registry : Registry} {operation : String} {signature : Signature}

-- What the tier of an operation calls itself: a registered one by its own name, any other by the configured name.
def reportedName (registered : Table Stand TierRef) (signature : Signature) (tier : String) : String :=
  ((registered.find? ⟨tier, signature.key, signature.value⟩).map TierRef.name).getD tier

theorem supply_names {next : Nat} {names : List String} {refs : List TierRef} {states : List TierState}
    (supply : Supply registry operation signature next names refs states) :
    refs.map TierRef.name = names.map (reportedName registry.registered signature) := by
  induction supply with
  | nil next => rfl
  | registered found rest ih => rw [List.map_cons, List.map_cons, ih, reportedName, found, Option.map_some, Option.getD_some]
  | made unregistered configured fits rest ih =>
      rw [List.map_cons, List.map_cons, ih, reportedName, unregistered, Option.map_none, Option.getD_none]

theorem supply_fits {next : Nat} {names : List String} {refs : List TierRef} {states : List TierState}
    (supply : Supply registry operation signature next names refs states) :
    ∀ name ∈ names, registry.registered.find? ⟨name, signature.key, signature.value⟩ = none →
      ∃ setup state, registry.tiers.find? name = some setup ∧ stateFor name operation signature.value setup = .ok state := by
  induction supply with
  | nil next => simp
  | registered found rest ih =>
      refine List.forall_mem_cons.mpr ⟨?_, ih⟩
      intro unregistered
      rw [found] at unregistered
      cases unregistered
  | made unregistered configured fits rest ih => exact List.forall_mem_cons.mpr ⟨fun _ => ⟨_, _, configured, fits⟩, ih⟩

inductive Withheld (registry : Registry) (operation : String) (signature : Signature) (name : String) : CacheError → Prop where
  | unknown (unregistered : registry.registered.find? ⟨name, signature.key, signature.value⟩ = none)
    (absent : registry.tiers.find? name = none) : Withheld registry operation signature name (.unknownTier name)
  | unfit {error : CacheError} (unregistered : registry.registered.find? ⟨name, signature.key, signature.value⟩ = none)
    (setup : TierSetup) (configured : registry.tiers.find? name = some setup)
    (refused : stateFor name operation signature.value setup = .error error) : Withheld registry operation signature name error

theorem bind_refused {A B : Type} {first : Except CacheError A} {next : A → Except CacheError B} {error : CacheError}
    (refused : (first >>= next) = .error error) :
    first = .error error ∨ ∃ given, first = .ok given ∧ next given = .error error := by
  cases first with
  | error fault => exact .inl (congrArg Except.error (Except.error.inj refused))
  | ok given => exact .inr ⟨given, rfl, refused⟩

theorem tier_for_refused (name : String) (world : World) (error : CacheError)
    (refused : registry.tierFor operation signature name world = .error error) :
    Withheld registry operation signature name error := by
  rw [tierFor] at refused
  cases found : registry.registered.find? ⟨name, signature.key, signature.value⟩ with
  | some ref =>
      rw [found] at refused
      cases refused
  | none =>
      rw [found] at refused
      cases configured : registry.tiers.find? name with
      | none =>
          rw [configured] at refused
          obtain rfl := Except.error.inj refused
          exact .unknown found configured
      | some setup =>
          simp only [configured, fresh_tier_state] at refused
          cases fits : stateFor name operation signature.value setup with
          | error fault =>
              rw [fits] at refused
              obtain rfl := Except.error.inj refused
              exact .unfit found setup configured fits
          | ok state =>
              rw [fits] at refused
              cases refused

theorem tiers_for_refused (names : List String) (world : World) (error : CacheError)
    (refused : registry.tiersFor operation signature names world = .error error) :
    ∃ name ∈ names, Withheld registry operation signature name error := by
  induction names generalizing world with
  | nil => cases refused
  | cons name rest ih =>
      rw [tiersFor] at refused
      rcases bind_refused refused with first | ⟨⟨ref, after⟩, _, later⟩
      · exact ⟨name, List.mem_cons_self, tier_for_refused name world error first⟩
      · rcases bind_refused later with others | ⟨_, _, made⟩
        · obtain ⟨other, member, withheld⟩ := ih after others
          exact ⟨other, List.mem_cons_of_mem _ member, withheld⟩
        · cases made

theorem state_for_refused (operation name : String) (valueType : ValueType) (tier : TierSetup) (seconds : Nat)
    (error : CacheError) :
    stateFor name operation valueType (tier.withTtl seconds) = .error error ↔
      ∃ setup fault, tier = .redis setup ∧ Redis.Address.parse setup.address = .error fault ∧
        error = .config (.address name fault.message) := by
  cases tier with
  | memory setup =>
      constructor
      · intro refused
        cases refused
      · rintro ⟨_, _, same, _⟩
        cases same
  | redis setup =>
      simp only [TierSetup.withTtl, stateFor, RedisTier.new]
      constructor
      · intro refused
        cases parsed : Redis.Address.parse setup.address with
        | error fault =>
            rw [parsed] at refused
            exact ⟨setup, fault, rfl, parsed, (Except.error.inj refused).symm⟩
        | ok address =>
            rw [parsed] at refused
            cases refused
      · rintro ⟨_, fault, same, rejected, rfl⟩
        cases same
        rw [rejected]
        rfl

theorem materialise_drafted (name : String) (setup : OperationSetup) (world : World)
    (configured : registry.operations.find? name = some setup) :
    registry.materialise name signature world =
      match registry.tiersFor name signature setup.tiers world with
      | .error error => .error error
      | .ok supplied =>
        ((draftOf name setup supplied.1).build TierRef.name signature.shape).map fun built => (built, supplied.2) := by
  simp only [materialise, configured]
  cases registry.tiersFor name signature setup.tiers world with
  | error error => rfl
  | ok supplied =>
      simp only [bind, Except.bind, draftOf]
      cases Draft.build TierRef.name signature.shape ⟨name, supplied.1, setup.key, some setup.shape, false⟩ with
      | error error => rfl
      | ok built => rfl

theorem materialise_checked (name : String) (world : World) (made : Operation TierRef × World)
    (passes : registry.materialise name signature world = .ok made) :
    ∃ setup refs states, registry.operations.find? name = some setup ∧
      Supply registry name signature world.slots.length setup.tiers refs states ∧
      (setup.tiers.map (reportedName registry.registered signature)).Nodup ∧
      setup.shape.admitsAbsence = signature.shape.admitsAbsence := by
  cases configured : registry.operations.find? name with
  | none =>
      rw [materialise, configured] at passes
      cases passes
  | some setup =>
      rw [materialise_drafted name setup world configured] at passes
      cases supplied : registry.tiersFor name signature setup.tiers world with
      | error error =>
          rw [supplied] at passes
          cases passes
      | ok given =>
          rw [supplied] at passes
          obtain ⟨states, supply, _⟩ := tiers_for_supply setup.tiers world given.2 given.1 supplied
          cases built : (draftOf name setup given.1).build TierRef.name signature.shape with
          | error error =>
              simp only [built, Except.map] at passes
              cases passes
          | ok operation =>
              have sound := ((Draft.build_ok_iff _ _ _ operation).mp built).1
              refine ⟨setup, given.1, states, rfl, supply, ?_, sound.fits setup.shape rfl⟩
              rw [← supply_names supply]
              exact sound.distinct

end Registry

-- What stands in the way of an operation under an accepted configuration, with the error that tells it.
inductive Config.Obstacle (config : Config) (registered : Table Stand TierRef) (name : String) (signature : Signature) :
    CacheError → Prop where
  | unknown (absent : config.operations.find? name = none) :
    Obstacle config registered name signature (.unknownOperation name)
  | address (setup : OperationSetup) (configured : config.operations.find? name = some setup) (tier : String)
    (used : tier ∈ setup.tiers) (unregistered : registered.find? ⟨tier, signature.key, signature.value⟩ = none)
    (redis : RedisSetup) (kind : config.tiers.find? tier = some (.redis redis)) (fault : Redis.AddressFault)
    (rejected : Redis.Address.parse redis.address = .error fault) :
    Obstacle config registered name signature (.config (.address tier fault.message))
  | namesakes (setup : OperationSetup) (configured : config.operations.find? name = some setup) (first second : String)
    (one : first ∈ setup.tiers) (other : second ∈ setup.tiers) (different : first ≠ second)
    (same : Registry.reportedName registered signature first = Registry.reportedName registered signature second) :
    Obstacle config registered name signature
      (.config (.repeatedTier name (Registry.reportedName registered signature first)))
  | shape (setup : OperationSetup) (configured : config.operations.find? name = some setup)
    (differs : setup.shape.admitsAbsence ≠ signature.shape.admitsAbsence) :
    Obstacle config registered name signature (.shapeMismatch name setup.shape.text signature.shape.text)

namespace Config

variable {config : Config} {registry : Registry} {name : String} {signature : Signature}

theorem reported_otherwise (registered : Table Stand TierRef) (signature : Signature) (tier : String)
    (otherwise : Registry.reportedName registered signature tier ≠ tier) :
    ∃ ref, registered.find? ⟨tier, signature.key, signature.value⟩ = some ref ∧ ref.name ≠ tier := by
  rw [Registry.reportedName] at otherwise
  cases found : registered.find? ⟨tier, signature.key, signature.value⟩ with
  | none =>
      rw [found] at otherwise
      exact absurd rfl otherwise
  | some ref =>
      rw [found] at otherwise
      exact ⟨ref, rfl, otherwise⟩

theorem namesake_registered (registered : Table Stand TierRef) (signature : Signature) (first second : String)
    (different : first ≠ second)
    (same : Registry.reportedName registered signature first = Registry.reportedName registered signature second) :
    ∃ tier, (tier = first ∨ tier = second) ∧
      ∃ ref, registered.find? ⟨tier, signature.key, signature.value⟩ = some ref ∧ ref.name ≠ tier := by
  -- The configured names differ, so one of the two tiers goes by another name than its own.
  by_cases own : Registry.reportedName registered signature first = first
  · refine ⟨second, .inr rfl, reported_otherwise registered signature second ?_⟩
    rw [← same, own]
    exact different
  · exact ⟨first, .inl rfl, reported_otherwise registered signature first own⟩

theorem repeated_reported (report : String → String) (tiers : List String) (distinct : tiers.Nodup)
    (before after : List String) (name : String) (split : tiers.map report = before ++ name :: after)
    (known : name ∈ before) :
    ∃ first ∈ tiers, ∃ second ∈ tiers, first ≠ second ∧ report first = name ∧ report second = name := by
  obtain ⟨sooner, later, rfl, rfl, rest⟩ := List.map_eq_append_iff.mp split
  obtain ⟨second, behind, rfl, second_reports, rfl⟩ := List.map_eq_cons_iff.mp rest
  obtain ⟨first, member, reports⟩ := List.mem_map.mp known
  refine ⟨first, List.mem_append_left _ member, second, by simp, ?_, reports, second_reports⟩
  rintro rfl
  exact (List.nodup_append.mp distinct).2.2 first member first List.mem_cons_self rfl

theorem drafted_refused (setup : OperationSetup) (registered : Table Stand TierRef) (tiers : List TierRef)
    (error : CacheError) (configured : config.operations.find? name = some setup)
    (sound : SoundOperation config.tiers name setup)
    (names : tiers.map TierRef.name = setup.tiers.map (Registry.reportedName registered signature))
    (refused : (Registry.draftOf name setup tiers).build TierRef.name signature.shape = .error error) :
    config.Obstacle registered name signature error := by
  cases (Draft.build_error_iff _ _ _ error).mp refused with
  | noTiers empty =>
      obtain rfl : tiers = [] := empty
      exact absurd (List.map_eq_nil_iff.mp names.symm) sound.nonempty
  | repeatedTier before after tier listed _ known =>
      obtain rfl : tiers = before ++ tier :: after := listed
      rw [List.map_append, List.map_cons] at names
      obtain ⟨first, one, second, other, different, reports, same⟩ :=
        repeated_reported _ setup.tiers sound.distinct _ _ _ names.symm known
      rw [← reports]
      exact .namesakes setup configured first second one other different (reports.trans same.symm)
  | keyParams _ _ fault faulty =>
      have passes := (Key.check_params_ok setup.key).mpr sound.key
      cases passes.symm.trans ((Key.check_params_refused setup.key fault).mpr faulty)
  | shape _ _ _ declared given differs =>
      obtain rfl : setup.shape = declared := Option.some.inj given
      exact .shape setup configured differs

section Tables

variable (sound : config.WellFormed) (tiers : registry.tiers = config.effectiveTiers)
  (operations : registry.operations = config.operations) (world : World)
include sound tiers operations

omit operations in
theorem withheld_obstacle (setup : OperationSetup) (tier : String) (error : CacheError)
    (configured : config.operations.find? name = some setup) (used : tier ∈ setup.tiers)
    (withheld : Registry.Withheld registry name signature tier error) :
    config.Obstacle registry.registered name signature error := by
  obtain ⟨kind, known⟩ := Option.isSome_iff_exists.mp ((sound.operations name setup configured).configured tier used)
  have effective := find_map_values (fun kind => kind.withTtl (config.effectiveTtl kind)) tier config.tiers
  rw [known, ← Config.effectiveTiers, ← tiers] at effective
  cases withheld with
  | unknown unregistered absent =>
      rw [absent] at effective
      cases effective
  | unfit unregistered given found failed =>
      obtain rfl := Option.some.inj (found.symm.trans effective)
      obtain ⟨redis, fault, rfl, rejected, rfl⟩ := (Registry.state_for_refused _ _ _ _ _ _).mp failed
      exact .address setup configured tier used unregistered redis known fault rejected

theorem refused_for_obstacle (error : CacheError) (refused : registry.materialise name signature world = .error error) :
    config.Obstacle registry.registered name signature error := by
  cases configured : config.operations.find? name with
  | none =>
      rw [Registry.materialise, operations, configured] at refused
      obtain rfl := Except.error.inj refused
      exact .unknown configured
  | some setup =>
      rw [Registry.materialise_drafted name setup world (operations ▸ configured)] at refused
      cases supplied : registry.tiersFor name signature setup.tiers world with
      | error fault =>
          rw [supplied] at refused
          obtain rfl := Except.error.inj refused
          obtain ⟨tier, used, withheld⟩ := Registry.tiers_for_refused setup.tiers world fault supplied
          exact withheld_obstacle sound tiers setup tier fault configured used withheld
      | ok given =>
          rw [supplied] at refused
          obtain ⟨states, supply, _⟩ := Registry.tiers_for_supply setup.tiers world given.2 given.1 supplied
          cases built : (Registry.draftOf name setup given.1).build TierRef.name signature.shape with
          | ok operation =>
              simp only [built, Except.map] at refused
              cases refused
          | error fault =>
              simp only [built, Except.map, Except.error.injEq] at refused
              obtain rfl := refused
              exact drafted_refused setup registry.registered given.1 fault configured (sound.operations name setup configured)
                (Registry.supply_names supply) built

omit sound in
theorem obstacle_refuses (error : CacheError) (obstacle : config.Obstacle registry.registered name signature error)
    (made : Operation TierRef × World) : registry.materialise name signature world ≠ .ok made := by
  intro passes
  obtain ⟨setup, refs, states, configured, supply, distinct, fits⟩ :=
    Registry.materialise_checked name world made passes
  rw [operations] at configured
  cases obstacle with
  | unknown absent =>
      rw [absent] at configured
      cases configured
  | address other found tier used unregistered redis kind fault rejected =>
      obtain rfl := Option.some.inj (found.symm.trans configured)
      obtain ⟨kept, state, known, fitting⟩ := Registry.supply_fits supply tier used unregistered
      rw [tiers, Config.effectiveTiers, find_map_values, kind] at known
      obtain rfl := Option.some.inj known
      have refused := (Registry.state_for_refused name tier signature.value (.redis redis)
        (config.effectiveTtl (.redis redis)) _).mpr ⟨redis, fault, rfl, rejected, rfl⟩
      cases fitting.symm.trans refused
  | namesakes other found first second one twin different same =>
      obtain rfl := Option.some.inj (found.symm.trans configured)
      exact different (List.inj_on_of_nodup_map distinct one twin same)
  | shape other found differs =>
      obtain rfl := Option.some.inj (found.symm.trans configured)
      exact differs fits

end Tables

-- The errors of checks that an accepted configuration has passed already.
inductive RuledOut : CacheError → Prop where
  | noTiers (operation : String) : RuledOut (.config (.noTiers operation))
  | unknownTier (tier : String) : RuledOut (.unknownTier tier)
  | keyParams (operation : String) (fault : Key.ParamFault) : RuledOut (.config (.keyParams operation fault))

theorem obstacle_not_ruled_out {registered : Table Stand TierRef} (error : CacheError)
    (obstacle : config.Obstacle registered name signature error) : ¬ RuledOut error := by
  intro passed
  cases obstacle with
  | unknown absent =>
      generalize same : CacheError.unknownOperation name = error at passed
      cases passed with
      | unknownTier tier =>
          have texts := congrArg String.toList (CacheError.notFound.inj same)
          simp [toString] at texts
      | noTiers operation => cases same
      | keyParams operation fault => cases same
  | address => cases passed
  | namesakes => cases passed
  | shape => cases passed

end Config

namespace Manager

theorem operation_unbuilt (name : String) (signature : Signature) (manager : Manager)
    (unbuilt : manager.registry.built.find? (name, signature) = none) :
    (manager.operation name signature).1 =
      (manager.registry.materialise name signature manager.context.world).map Prod.fst := by
  cases made : manager.registry.materialise name signature manager.context.world with
  | error fault =>
      rw [operation_refused name signature fault manager unbuilt made]
      rfl
  | ok found =>
      rw [operation_made name signature found.1 found.2 manager unbuilt made]
      rfl

-- After any history: an operation that has not been built for some types is refused for one of the obstacles only, and
-- never for what the checks of the configuration have settled; and it is built exactly if there is no obstacle.
theorem operations_are_refused_for_obstacles (context : Context World) (history : List (Request E)) (config : Config)
    (name : String) (signature : Signature) (now : current history = some config)
    (unbuilt : (after history ⟨.empty, context⟩).registry.built.find? (name, signature) = none) :
    let manager := after history ⟨.empty, context⟩
    let outcome := (manager.operation name signature).1
    let registered := manager.registry.registered
    (∀ error, outcome = .error error → config.Obstacle registered name signature error ∧ ¬ Config.RuledOut error) ∧
    (∀ tier, outcome = .error (.config (.repeatedTier name tier)) →
      ∃ setup, config.operations.find? name = some setup ∧ ∃ used ∈ setup.tiers, ∃ ref,
        registered.find? ⟨used, signature.key, signature.value⟩ = some ref ∧ ref.name ≠ used) ∧
    ((∃ operation, outcome = .ok operation) ↔ ∀ error, ¬ config.Obstacle registered name signature error) := by
  intro manager outcome registered
  have sound := current_well_formed history config now
  have settled := after_settled context history
  rw [now] at settled
  have answer := operation_unbuilt name signature manager unbuilt
  have refused (error : CacheError) (failed : outcome = .error error) :
      config.Obstacle registered name signature error := by
    have told := answer.symm.trans failed
    cases made : manager.registry.materialise name signature manager.context.world with
    | error fault =>
        rw [made] at told
        obtain rfl := Except.error.inj told
        exact Config.refused_for_obstacle sound settled.tiers settled.operations _ fault made
    | ok found =>
        rw [made] at told
        cases told
  refine ⟨?_, ?_, ?_, ?_⟩
  · intro error failed
    have obstacle := refused error failed
    exact ⟨obstacle, Config.obstacle_not_ruled_out error obstacle⟩
  · intro tier failed
    generalize told : CacheError.config (.repeatedTier name tier) = error at failed
    cases refused error failed with
    | namesakes setup configured first second one other different same =>
        obtain ⟨used, among, ref, found, otherwise⟩ :=
          Config.namesake_registered registered signature first second different same
        refine ⟨setup, configured, used, ?_, ref, found, otherwise⟩
        rcases among with rfl | rfl
        · exact one
        · exact other
    | unknown absent => cases told
    | address => cases told
    | shape => cases told
  · rintro ⟨operation, found⟩ error obstacle
    have told := answer.symm.trans found
    cases made : manager.registry.materialise name signature manager.context.world with
    | error fault =>
        rw [made] at told
        cases told
    | ok given => exact Config.obstacle_refuses settled.tiers settled.operations _ error obstacle given made
  · intro clear
    cases ended : outcome with
    | error error => exact absurd (refused error ended) (clear error)
    | ok operation => exact ⟨operation, rfl⟩

def blockedConfig : Config where
  version := some 1
  defaultTtl := 60
  enableMetrics := true
  tiers := .ofList [("near", .memory ⟨10, none⟩), ("far", .memory ⟨10, none⟩),
    ("remote", .redis ⟨"http://cache", none, none, 1000, 1000⟩)]
  operations := .ofList [("users", ⟨["near", "far"], ["id"], .plain⟩), ("orders", ⟨["near", "remote"], ["id"], .plain⟩)]

def blockedSignature (key : ValueType) : Signature := ⟨key, .str, .plain⟩

def blockedRequests : List (Request String) :=
  [.init blockedConfig, .make (.memory (.new "far" 10 none)) true, .register ⟨"near", .natural 64, .str⟩ 0,
    .register ⟨"remote", .str, .str⟩ 0]

theorem obstacles_depend_on_registered_tiers :
    let manager := after blockedRequests Manager.empty
    let registered := manager.registry.registered
    blockedConfig.Obstacle registered "users" (blockedSignature (.natural 64)) (.config (.repeatedTier "users" "far")) ∧
      (∃ fault : Redis.AddressFault, blockedConfig.Obstacle registered "orders" (blockedSignature (.natural 64))
        (.config (.address "remote" fault.message))) ∧
      ∀ error, ¬ blockedConfig.Obstacle registered "orders" (blockedSignature .str) error := by
  intro manager registered
  have refusals (name : String) := operations_are_refused_for_obstacles Manager.empty.context blockedRequests blockedConfig
    name (blockedSignature (.natural 64)) rfl rfl
  have grants := operations_are_refused_for_obstacles Manager.empty.context blockedRequests blockedConfig "orders"
    (blockedSignature .str) rfl rfl
  refine ⟨((refusals "users").1 _ rfl).1, ⟨.scheme, ((refusals "orders").1 _ rfl).1⟩, ?_⟩
  exact grants.2.2.mp ⟨_, rfl⟩

end Manager

end CacheTiers
