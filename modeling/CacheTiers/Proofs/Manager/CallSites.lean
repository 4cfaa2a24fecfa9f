import CacheTiers.Proofs.Manager.Descriptors

namespace CacheTiers

open Request

theorem Registry.supply_states {registry : Registry} {operation : String} {signature : Signature} {next : Nat}
    {names : List String} {refs : List TierRef} {states : List TierState}
    (supply : Supply registry operation signature next names refs states) :
    ∀ state ∈ states, ∃ tier setup, registry.tiers.find? tier = some setup ∧
      stateFor tier operation signature.value setup = .ok state := by
  induction supply with
  | nil next => simp
  | registered found rest ih => exact ih
  | made unregistered configured fits rest ih => exact List.forall_mem_cons.mpr ⟨⟨_, _, configured, fits⟩, ih⟩

namespace Manager

section LookUp

variable {name : String} {signature : Signature} {manager after : Manager}

-- The operation is at hand. Looking it up has left alone what was there; at most it has added tiers, as they are made for
-- the operation, behind all others, and its descriptor.
structure Prepared (name : String) (signature : Signature) (operation : Operation TierRef) (before after : Manager) :
    Prop where
  metrics : after.context.metrics = before.context.metrics
  world : ∃ states, after.context.world = before.context.world.addAll states ∧
    ∀ state ∈ states, ∃ tier setup, before.registry.tiers.find? tier = some setup ∧
      Registry.stateFor tier name signature.value setup = .ok state
  tables : after.registry = { before.registry with built := after.registry.built }
  built : ∀ id, after.registry.built.find? id =
    if id = (name, signature) then some operation else before.registry.built.find? id

theorem operation_failed (error : CacheError) (failed : (manager.operation name signature).1 = .error error) :
    (manager.operation name signature).2 = manager := by
  cases built : manager.registry.built.find? (name, signature) with
  | some operation => rw [operation_built _ _ operation manager built]
  | none =>
      cases made : manager.registry.materialise name signature manager.context.world with
      | error fault => rw [operation_refused _ _ fault manager built made]
      | ok given =>
          rw [operation_made _ _ given.1 given.2 manager built made] at failed
          cases failed

theorem operation_prepared (operation : Operation TierRef) (found : manager.operation name signature = (.ok operation, after)) :
    Prepared name signature operation manager after := by
  cases built : manager.registry.built.find? (name, signature) with
  | some cached =>
      rw [operation_built _ _ cached manager built] at found
      cases found
      refine ⟨rfl, ⟨[], by simp [World.addAll], by simp⟩, rfl, ?_⟩
      intro id
      by_cases same : id = (name, signature)
      · rw [if_pos same, same, built]
      · rw [if_neg same]
  | none =>
      cases made : manager.registry.materialise name signature manager.context.world with
      | error fault =>
          rw [operation_refused _ _ fault manager built made] at found
          cases found
      | ok given =>
          obtain ⟨setup, states, _, grown, supply, _⟩ := Registry.materialise_supply made
          rw [operation_made _ _ given.1 given.2 manager built made] at found
          cases found
          exact ⟨rfl, ⟨states, grown, Registry.supply_states supply⟩, rfl, fun id => Table.find?_insert _ _ id _⟩

end LookUp

section Reach

variable {R E : Type} (reach : TierRef → Tier World Json Json) (current : Bool) (site : CallSite) (form : ResultForm Json R)
  (key : Json)

-- Resolution by name, whatever the tiers of the operation do when they are asked.
def resolveThrough (origin : World → Except (Failure E) R × World) (elapsed : Float) (manager : Manager) :
    Except (Failure E) R × Manager :=
  match manager.operationAt site form.shape with
  | (.error error, manager) => (.error (.cache error), manager)
  | (.ok operation, manager) => manager.onContext ((operation.map reach).resolve form key origin elapsed)

def resolveThroughAsync (origin : Job World (Except (Failure E) R)) (elapsed : Float) : Job Manager (Outcome R E) := do
  match ← Job.act (operationAt site form.shape) with
  | .error error => return .only (.error (.cache error))
  | .ok operation => ((operation.map reach).resolveAsync form key current origin elapsed).onContext

end Reach

section Gate

variable {R : Type} (site : CallSite) (form : ResultForm Json R) (manager after : Manager)

-- The call site is refused, blocking or suspending: with this error, in the first poll, with nothing dispatched, and
-- leaving `after` behind; and so it is whatever the tiers and the origin do, and with a runtime or without.
structure Refuses (error : CacheError) : Prop where
  blocking : ∀ {E : Type} (key : Json) (origin : World → Except (Failure E) R × World) (elapsed : Float),
    resolveNamed site form key origin elapsed manager = (.error (.cache error), after)
  suspending : ∀ {E : Type} (key : Json) (current : Bool) (origin : Job World (Except (Failure E) R)) (elapsed : Float),
    resolveNamedAsync site form key current origin elapsed manager = .ready (.only (.error (.cache error))) after
  unasked : ∀ {E : Type} (reach : TierRef → Tier World Json Json) (key : Json)
    (origin : World → Except (Failure E) R × World) (elapsed : Float),
    resolveThrough reach site form key origin elapsed manager = (.error (.cache error), after)
  unawaited : ∀ {E : Type} (reach : TierRef → Tier World Json Json) (current : Bool) (key : Json)
    (origin : Job World (Except (Failure E) R)) (elapsed : Float),
    resolveThroughAsync reach current site form key origin elapsed manager = .ready (.only (.error (.cache error))) after

structure HandsOn (operation : Operation TierRef) : Prop where
  blocking : ∀ {E : Type} (key : Json) (origin : World → Except (Failure E) R × World) (elapsed : Float),
    resolveNamed site form key origin elapsed manager =
      after.onContext ((operation.map World.tier).resolve form key origin elapsed)
  suspending : ∀ {E : Type} (key : Json) (current : Bool) (origin : Job World (Except (Failure E) R)) (elapsed : Float),
    resolveNamedAsync site form key current origin elapsed manager =
      ((operation.map World.tier).resolveAsync form key current origin elapsed).onContext after
  anywhere : ∀ {E : Type} (current : Bool) (key : Json) (origin : Job World (Except (Failure E) R)) (elapsed : Float),
    resolveThroughAsync World.tier current site form key origin elapsed manager =
      ((operation.map World.tier).resolveAsync form key current origin elapsed).onContext after

variable {site form manager after}

theorem through_refused {E : Type} (reach : TierRef → Tier World Json Json) (current : Bool) (key : Json)
    (origin : Job World (Except (Failure E) R)) (elapsed : Float) (error : CacheError)
    (refused : manager.operationAt site form.shape = (.error error, after)) :
    resolveThroughAsync reach current site form key origin elapsed manager =
      .ready (.only (.error (.cache error))) after := by
  simp only [resolveThroughAsync, bind, Job.bind, Job.act, refused, Poll.bind]
  rfl

theorem through_found {E : Type} (reach : TierRef → Tier World Json Json) (current : Bool) (key : Json)
    (origin : Job World (Except (Failure E) R)) (elapsed : Float) (operation : Operation TierRef)
    (found : manager.operationAt site form.shape = (.ok operation, after)) :
    resolveThroughAsync reach current site form key origin elapsed manager =
      ((operation.map reach).resolveAsync form key current origin elapsed).onContext after := by
  simp only [resolveThroughAsync, bind, Job.bind, Job.act, found, Poll.bind]

theorem refuses_at (error : CacheError) (refused : manager.operationAt site form.shape = (.error error, after)) :
    Refuses site form manager after error where
  blocking _ _ _ := by rw [resolveNamed, refused]
  suspending key current origin elapsed := resolve_refused site form key current origin elapsed manager after error refused
  unasked _ _ _ _ := by rw [resolveThrough, refused]
  unawaited reach current key origin elapsed := through_refused reach current key origin elapsed error refused

theorem hands_on_at (operation : Operation TierRef) (found : manager.operationAt site form.shape = (.ok operation, after)) :
    HandsOn site form manager after operation where
  blocking _ _ _ := by rw [resolveNamed, found]
  suspending key current origin elapsed := resolve_found site form key current origin elapsed manager after operation found
  anywhere current key origin elapsed := through_found World.tier current key origin elapsed operation found

theorem unmaterialised_refused (error : CacheError)
    (failed : (manager.operation site.operation (site.signature form.shape)).1 = .error error) :
    Refuses site form manager manager error := by
  have kept := operation_failed error failed
  apply refuses_at
  rcases looked : manager.operation site.operation (site.signature form.shape) with ⟨answer, later⟩
  rw [looked] at failed kept
  obtain rfl := failed
  obtain rfl := kept
  rw [operationAt, looked]

theorem mismatched_refused (operation : Operation TierRef)
    (found : manager.operation site.operation (site.signature form.shape) = (.ok operation, after))
    (differs : site.params ≠ operation.keyParams) :
    Refuses site form manager after (.config (.callSite operation.name operation.keyParams site.params)) := by
  apply refuses_at
  simp only [operationAt, found, checkCallSite, if_neg (Ne.symm differs)]

theorem matched_handed_on (operation : Operation TierRef)
    (found : manager.operation site.operation (site.signature form.shape) = (.ok operation, after))
    (same : site.params = operation.keyParams) : HandsOn site form manager after operation :=
  hands_on_at operation (operation_at_fits site form.shape operation manager after found same.symm)

end Gate

theorem call_sites_are_gated {E R : Type} (context : Context World) (history : List (Request E)) (site : CallSite)
    (form : ResultForm Json R) :
    let manager := after history ⟨.empty, context⟩
    let signature := site.signature form.shape
    let found := manager.operation site.operation signature
    (∀ error, found.1 = .error error → Refuses site form manager manager error) ∧
    ∀ operation, found.1 = .ok operation → ∃ config setup, current history = some config ∧
      config.operations.find? site.operation = some setup ∧
      Prepared site.operation signature operation manager found.2 ∧
      found.2.operation site.operation signature = (.ok operation, found.2) ∧
      (site.params ≠ setup.key →
        Refuses site form manager found.2 (.config (.callSite site.operation setup.key site.params))) ∧
      (site.params = setup.key → HandsOn site form manager found.2 operation) := by
  intro manager signature found
  refine ⟨fun error failed => unmaterialised_refused error failed, ?_⟩
  intro operation passes
  have looked : manager.operation site.operation signature = (.ok operation, found.2) := Prod.ext passes rfl
  have cached := operation_cached site.operation signature operation manager passes
  have built := (after_one history (.operation site.operation signature) ⟨.empty, context⟩).symm ▸ cached
  obtain ⟨before, config, _, now, describes⟩ := cached_described context _ site.operation signature operation built
  rw [current_one] at now
  obtain ⟨setup, configured, keyParams, _⟩ := describes.setup
  refine ⟨config, setup, now, configured, operation_prepared operation looked, operation_built _ _ _ _ cached, ?_, ?_⟩
  · intro differs
    have refused := mismatched_refused operation looked (keyParams ▸ differs)
    rw [describes.named, keyParams] at refused
    exact refused
  · intro same
    exact matched_handed_on operation looked (same.trans keyParams.symm)

def gatedConfig : Config where
  version := none
  defaultTtl := 60
  enableMetrics := true
  tiers := .ofList [("near", .memory ⟨10, none⟩)]
  operations := .ofList [("users", ⟨["near"], ["id", "region"], .plain⟩)]

def gatedSite (params : List String) : CallSite := ⟨"users", params, .tuple [.natural 64, .str], .str⟩

def gatedRequests : List (Request String) :=
  [.init gatedConfig,
    .resolve ⟨gatedSite ["id", "region"], Json, .plain, .arr [.int 1, .str "eu"], .ok (.str "x"), none, true, 0⟩ none]

theorem built_operation_refuses_other_sites :
    let manager := after gatedRequests Manager.empty
    Refuses (gatedSite ["region", "id"]) .plain manager manager
        (.config (.callSite "users" ["id", "region"] ["region", "id"])) ∧
      Refuses (gatedSite ["id", "region"]) .optional manager manager (.shapeMismatch "users" "plain" "optional") := by
  intro manager
  have gate := call_sites_are_gated Manager.empty.context gatedRequests (gatedSite ["region", "id"]) .plain
  have other := call_sites_are_gated Manager.empty.context gatedRequests (gatedSite ["id", "region"]) .optional
  obtain ⟨config, setup, now, configured, _, _, refuses, _⟩ :=
    gate.2 ⟨"users", [⟨0, "near"⟩], ["id", "region"], .plain, false⟩ rfl
  obtain rfl : gatedConfig = config := Option.some.inj now
  obtain rfl : ⟨["near"], ["id", "region"], .plain⟩ = setup := Option.some.inj configured
  exact ⟨refuses (by decide), other.1 _ rfl⟩

end Manager

end CacheTiers
