import CacheTiers.Proofs.Manager.Interference
import CacheTiers.Proofs.Manager.Supply
import CacheTiers.Proofs.World.Standing

namespace CacheTiers

variable {E : Type}

namespace Manager

variable {R : Type}

def awaitFor (polls : Nat) (job : Job Manager (Outcome R E)) (manager : Manager) :
    Option (Except (Failure E) R) × Manager :=
  let (outcome, manager) := job.runFor polls manager
  match outcome with
  | none => (none, { manager with context := { manager.context with world := manager.context.world.note .cancelled } })
  | some outcome =>
    let context := { manager.context with world := manager.context.world.note .returned }
    (some outcome.result, { manager with context := Resolve.settleDispatched outcome.dispatched context })

end Manager

def NamedCall.runFor (polls : Option Nat) (call : NamedCall E) (manager : Manager) :
    Option (Except (Failure E) call.R) × Manager :=
  match call.waits, polls with
  | some waits, some polls =>
    Manager.awaitFor polls
      (Manager.resolveNamedAsync call.site call.form call.key call.current (Session.originJob call.given waits) call.elapsed)
      manager
  | _, _ =>
    let (result, after) := call.run manager
    (some result, after)

inductive Request (E : Type) : Type 1 where
  | init (config : Config)
  | initFromFile (content : Except FileFault (List UInt8))
  | reset
  | operationNames
  | make (state : TierState) (noted : Bool)
  -- Registers the tier that stands at a place of the world, if one does.
  | register (stand : Stand) (place : Nat)
  | operation (name : String) (signature : Signature)
  -- A suspending call is run to its end, or polled a number of times and dropped.
  | resolve (call : NamedCall E) (polls : Option Nat)

inductive Response (E : Type) : Type 1 where
  | none
  | ended (outcome : Except CacheError Unit)
  | names (names : List String)
  | made (ref : TierRef)
  | found (outcome : Except CacheError (Operation TierRef))
  | resolved (call : NamedCall E) (result : Option (Except (Failure E) call.R))

def Config.accepted? (config : Config) : Option Config :=
  match config.check with
  | .ok () => some config
  | .error _ => none

namespace Request

def run : Request E → Manager → Response E × Manager
  | .init config, manager =>
    let (outcome, manager) := manager.init config
    (.ended outcome, manager)
  | .initFromFile content, manager =>
    let (outcome, manager) := manager.initFromFile content
    (.ended outcome, manager)
  | .reset, manager => (.none, manager.reset)
  | .operationNames, manager => (.names manager.registry.operationNames, manager)
  | .make state noted, manager =>
    let (ref, world) := manager.context.world.add state noted
    (.made ref, { manager with context := { manager.context with world } })
  | .register stand place, manager =>
    match manager.context.world.state? place with
    | some state =>
      let (outcome, manager) := manager.register stand ⟨place, World.nameOf state⟩
      (.ended outcome, manager)
    | .none => (.none, manager)
  | .operation name signature, manager =>
    let (outcome, manager) := manager.operation name signature
    (.found outcome, manager)
  | .resolve call polls, manager =>
    let (result, manager) := call.runFor polls manager
    (.resolved call result, manager)

def runAll : List (Request E) → Manager → List (Response E) × Manager
  | [], manager => ([], manager)
  | request :: rest, manager =>
    let (response, after) := request.run manager
    let (responses, last) := runAll rest after
    (response :: responses, last)

def after (history : List (Request E)) (manager : Manager) : Manager := (runAll history manager).2

-- What a request makes the configuration, if it clears the registry. A start that is refused does not.
def configures : Request E → Option (Option Config)
  | .init config => config.accepted?.map some
  | .initFromFile content => ((Config.ofFile content).toOption.bind Config.accepted?).map some
  | .reset => some none
  | _ => none

def current (history : List (Request E)) : Option Config :=
  history.foldl (fun config request => request.configures.getD config) none

theorem run_all_append (earlier later : List (Request E)) (manager : Manager) :
    runAll (earlier ++ later) manager =
      ((runAll earlier manager).1 ++ (runAll later (after earlier manager)).1, after later (after earlier manager)) := by
  induction earlier generalizing manager with
  | nil => rfl
  | cons request rest ih =>
      simp only [List.cons_append, runAll, after]
      rw [ih]
      rfl

theorem after_append (earlier later : List (Request E)) (manager : Manager) :
    after (earlier ++ later) manager = after later (after earlier manager) := by
  rw [after, run_all_append]

theorem after_cons (request : Request E) (rest : List (Request E)) (manager : Manager) :
    after (request :: rest) manager = after rest (request.run manager).2 := rfl

theorem after_one (history : List (Request E)) (request : Request E) (manager : Manager) :
    after (history ++ [request]) manager = (request.run (after history manager)).2 := after_append history [request] manager

theorem current_one (history : List (Request E)) (request : Request E) :
    current (history ++ [request]) = request.configures.getD (current history) := by
  rw [current, List.foldl_append]
  rfl

theorem current_unchanged (earlier later : List (Request E))
    (uncleared : ∀ request ∈ later, request.configures = none) :
    current (earlier ++ later) = current earlier := by
  induction later generalizing earlier with
  | nil => rw [List.append_nil]
  | cons request rest ih =>
      obtain ⟨first, others⟩ := List.forall_mem_cons.mp uncleared
      rw [List.append_cons, ih (earlier ++ [request]) others, current_one, first]
      rfl

inductive Moves (before after : Manager) : Option (Option Config) → Prop where
  | cleared (config : Option Config) (registry : after.registry = config.elim .empty Registry.ofConfig) :
    Moves before after (some config)
  | kept (registry : after.registry = before.registry) : Moves before after none
  | registered (stand : Stand) (ref : TierRef) (known : before.registry.tiers.contains stand.tier = true)
    (stands : ref.index < before.context.world.slots.length)
    (registry : after.registry = { before.registry with registered := before.registry.registered.insert stand ref }) :
    Moves before after none
  | built (name : String) (signature : Signature) (operation : Operation TierRef) (world : World)
    (unbuilt : before.registry.built.find? (name, signature) = none)
    (made : before.registry.materialise name signature before.context.world = .ok (operation, world))
    (upheld : world.Upholds after.context.world)
    (registry : after.registry =
      { before.registry with built := before.registry.built.insert (name, signature) operation }) :
    Moves before after none

end Request

section Standing

variable {R : Type}

theorem Poll.run_for_with_registry {A : Type} (polls : Nat) (job : Job (Context World) A) (manager : Manager) :
    job.onContext.runFor polls manager =
      ((job.runFor polls manager.context).1, ⟨manager.registry, (job.runFor polls manager.context).2⟩) := by
  induction polls generalizing job manager with
  | zero => rfl
  | succ polls ih =>
      simp only [Job.runFor, Job.onContext]
      cases job manager.context with
      | ready answer context => rfl
      | pending rest context => exact ih rest ⟨manager.registry, context⟩

theorem settle_alone (start : World) (operation : Operation TierRef) (form : ResultForm Json R) (key : Json)
    (current : Bool) (given : Except (Failure E) R) (waits : Nat) (elapsed : Float) :
    Job.InStep (Context.Related (World.Alone operation.places start))
      (Resolve.OutcomeAlike (World.Alone operation.places start))
      ((operation.map World.tier).resolveAsync form key current (Session.originJob given waits) elapsed)
      ((operation.map World.tier).resolveAsync form key current (Session.originJob given waits) elapsed) := by
  apply Operation.resolve_async_in_step _ _ form key current _ _ elapsed rfl (operation.stack_alone start) rfl
  intro world beside alone
  obtain ⟨rfl, acted⟩ := alone
  apply Job.after_in_step waits _ _ ?_ (world.note .originStarted) _ ⟨rfl, World.acted_trans acted (World.note_acted _ _)⟩
  exact World.alone_ends _ fun later => World.note_acted .originEnded later

theorem NamedCall.resolved_acted (call : NamedCall E) (operation : Operation TierRef) (context : Context World) :
    World.Acted operation.places context.world (call.resolved (.ok operation) context).2.world := by
  have start : World.Acted operation.places context.world context.world := World.acted_refl context.world
  unfold NamedCall.resolved
  cases call.waits with
  | none =>
      have ended := Operation.resolve_alike _ _ call.form call.key (Session.originAction call.given) _ call.elapsed context
        context rfl (operation.stack_alone context.world) (World.alone_ends _ (World.note_acted .origin)) ⟨rfl, start⟩
      exact ended.2.2
  | some waits =>
      have ended := Job.run_in_step _ _ context context
        (settle_alone context.world operation call.form call.key call.current call.given waits call.elapsed) ⟨rfl, start⟩
      obtain ⟨⟨_, settles⟩, _, still⟩ := ended
      let noted (context : Context World) : Context World := ⟨context.world.note .returned, context.metrics⟩
      exact (settles (noted _) (noted _) ⟨rfl, World.acted_trans still (World.note_acted _ _)⟩).2

theorem NamedCall.refused_acted (call : NamedCall E) (error : CacheError) (context : Context World) :
    World.Acted [] context.world (call.resolved (.error error) context).2.world := by
  unfold NamedCall.resolved
  cases call.waits with
  | none => exact World.acted_refl context.world
  | some waits => exact World.note_acted .returned context.world

theorem Manager.await_for_found (polls : Nat) (site : CallSite) (form : ResultForm Json R) (key : Json)
    (current : Bool) (origin : Job World (Except (Failure E) R)) (elapsed : Float) (manager : Manager)
    (operation : Operation TierRef) (found : (manager.operationAt site form.shape).1 = .ok operation) :
    Manager.awaitFor (polls + 1) (Manager.resolveNamedAsync site form key current origin elapsed) manager =
      Manager.awaitFor (polls + 1) ((operation.map World.tier).resolveAsync form key current origin elapsed).onContext
        (manager.operationAt site form.shape).2 := by
  rcases looked : manager.operationAt site form.shape with ⟨answer, after⟩
  rw [looked] at found
  obtain rfl := found
  have first := Manager.resolve_found site form key current origin elapsed manager after operation looked
  simp only [Manager.awaitFor, Job.runFor, first]

theorem Manager.await_for_refused (polls : Nat) (site : CallSite) (form : ResultForm Json R) (key : Json)
    (current : Bool) (origin : Job World (Except (Failure E) R)) (elapsed : Float) (manager : Manager) (error : CacheError)
    (refused : (manager.operationAt site form.shape).1 = .error error) :
    Manager.awaitFor (polls + 1) (Manager.resolveNamedAsync site form key current origin elapsed) manager =
      (some (.error (.cache error)),
        let after := (manager.operationAt site form.shape).2
        ⟨after.registry, ⟨after.context.world.note .returned, after.context.metrics⟩⟩) := by
  rcases looked : manager.operationAt site form.shape with ⟨answer, after⟩
  rw [looked] at refused
  obtain rfl := refused
  have first := Manager.resolve_refused site form key current origin elapsed manager after error looked
  simp only [Manager.awaitFor, Job.runFor, first]
  rfl

theorem Manager.await_for_acted (polls : Nat) (call : NamedCall E) (waits : Nat) (operation : Operation TierRef)
    (manager : Manager) :
    let ended := Manager.awaitFor polls ((operation.map World.tier).resolveAsync call.form call.key call.current
      (Session.originJob call.given waits) call.elapsed).onContext manager
    ended.2.registry = manager.registry ∧
      World.Acted operation.places manager.context.world ended.2.context.world := by
  have alone := Job.run_for_in_step polls _ _ manager.context _
    (settle_alone manager.context.world operation call.form call.key call.current call.given waits call.elapsed)
    ⟨rfl, World.acted_refl _⟩
  simp only [Manager.awaitFor, Poll.run_for_with_registry]
  rcases ran : Job.runFor polls ((operation.map World.tier).resolveAsync call.form call.key call.current
    (Session.originJob call.given waits) call.elapsed) manager.context with ⟨outcome, context⟩
  rw [ran] at alone
  obtain ⟨answers, _, still⟩ := alone
  cases outcome with
  | none => exact ⟨rfl, World.acted_trans still (World.note_acted _ _)⟩
  | some outcome =>
      cases answers with
      | some settled =>
          let noted : Context World := ⟨context.world.note .returned, context.metrics⟩
          exact ⟨rfl, (settled.2 noted noted ⟨rfl, World.acted_trans still (World.note_acted _ _)⟩).2⟩

-- A call of an operation that is at hand, suspending or not, run to its end or polled a number of times and dropped.
def NamedCall.served (polls : Option Nat) (operation : Operation TierRef) (call : NamedCall E) (manager : Manager) :
    Option (Except (Failure E) call.R) × Manager :=
  match call.waits, polls with
  | some waits, some polls =>
    Manager.awaitFor polls ((operation.map World.tier).resolveAsync call.form call.key call.current
      (Session.originJob call.given waits) call.elapsed).onContext manager
  | _, _ =>
    let (result, context) := call.resolved (.ok operation) manager.context
    (some result, { manager with context })

theorem NamedCall.served_acted (polls : Option Nat) (operation : Operation TierRef) (call : NamedCall E)
    (manager : Manager) :
    (call.served polls operation manager).2.registry = manager.registry ∧
      World.Acted operation.places manager.context.world (call.served polls operation manager).2.context.world := by
  have whole := call.resolved_acted operation manager.context
  unfold NamedCall.served
  cases call.waits with
  | none => exact ⟨rfl, whole⟩
  | some waits =>
      cases polls with
      | none => exact ⟨rfl, whole⟩
      | some polls => exact Manager.await_for_acted polls call waits operation manager

theorem NamedCall.run_for_served (polls : Option Nat) (call : NamedCall E) (manager : Manager)
    (operation : Operation TierRef) (found : (manager.operationAt call.site call.form.shape).1 = .ok operation)
    (polled : polls ≠ some 0 ∨ call.waits = none) :
    call.runFor polls manager = call.served polls operation (manager.operationAt call.site call.form.shape).2 := by
  have whole := call.run_resolved manager
  dsimp only at whole
  rw [found] at whole
  unfold NamedCall.runFor NamedCall.served
  cases waits : call.waits with
  | none => rw [whole]
  | some waits =>
      cases polls with
      | none => rw [whole]
      | some polls =>
          cases polls with
          | zero => simp [waits] at polled
          | succ polls =>
              exact Manager.await_for_found polls call.site call.form call.key _ _ call.elapsed manager operation found

theorem NamedCall.run_for_refused (polls : Option Nat) (call : NamedCall E) (manager : Manager) (error : CacheError)
    (refused : (manager.operationAt call.site call.form.shape).1 = .error error) (polled : polls ≠ some 0 ∨ call.waits = none) :
    (call.runFor polls manager).2.registry = (manager.operationAt call.site call.form.shape).2.registry ∧
      World.Acted [] (manager.operationAt call.site call.form.shape).2.context.world
        (call.runFor polls manager).2.context.world := by
  have whole := call.run_resolved manager
  dsimp only at whole
  rw [refused] at whole
  have rest := call.refused_acted error (manager.operationAt call.site call.form.shape).2.context
  unfold NamedCall.runFor
  cases waits : call.waits with
  | none =>
      rw [whole]
      exact ⟨rfl, rest⟩
  | some waits =>
      cases polls with
      | none =>
          rw [whole]
          exact ⟨rfl, rest⟩
      | some polls =>
          cases polls with
          | zero => simp [waits] at polled
          | succ polls =>
              dsimp only
              rw [Manager.await_for_refused polls call.site call.form call.key _ _ call.elapsed manager error refused]
              exact ⟨rfl, World.note_acted .returned _⟩

theorem NamedCall.run_for_acted (call : NamedCall E) (polls : Option Nat) (manager : Manager) :
    let after := (call.runFor polls manager).2
    let looked := (manager.operation call.site.operation (call.site.signature call.form.shape)).2
    ∃ places, (after.registry = manager.registry ∧ World.Acted places manager.context.world after.context.world) ∨
      (after.registry = looked.registry ∧ World.Acted places looked.context.world after.context.world) := by
  intro after looked
  have same : looked = (manager.operationAt call.site call.form.shape).2 :=
    (Manager.operation_at_manager call.site call.form.shape manager).symm
  rw [same]
  by_cases polled : polls ≠ some 0 ∨ call.waits = none
  · cases found : (manager.operationAt call.site call.form.shape).1 with
    | error error => exact ⟨[], .inr (call.run_for_refused polls manager error found polled)⟩
    | ok operation =>
        refine ⟨operation.places, .inr ?_⟩
        simp only [after, call.run_for_served polls manager operation found polled]
        exact call.served_acted polls operation _
  · obtain ⟨rfl, suspends⟩ : polls = some 0 ∧ call.waits ≠ none := by simpa using polled
    obtain ⟨waits, given⟩ := Option.ne_none_iff_exists'.mp suspends
    refine ⟨[], .inl ?_⟩
    simp only [after, NamedCall.runFor, given]
    exact ⟨rfl, World.note_acted .cancelled _⟩

end Standing

namespace Manager

theorem operation_moves (name : String) (signature : Signature) (manager after : Manager)
    (registry : after.registry = (manager.operation name signature).2.registry)
    (upheld : (manager.operation name signature).2.context.world.Upholds after.context.world) :
    Request.Moves manager after none ∧ manager.context.world.Upholds after.context.world := by
  cases built : manager.registry.built.find? (name, signature) with
  | some operation =>
      rw [operation_built _ _ _ manager built] at registry upheld
      exact ⟨.kept registry, upheld⟩
  | none =>
      cases made : manager.registry.materialise name signature manager.context.world with
      | error error =>
          rw [operation_refused _ _ error manager built made] at registry upheld
          exact ⟨.kept registry, upheld⟩
      | ok found =>
          obtain ⟨operation, world⟩ := found
          rw [operation_made _ _ operation world manager built made] at registry upheld
          obtain ⟨setup, states, _, same, _⟩ := Registry.materialise_supply made
          refine ⟨.built name signature operation world built made upheld registry, ?_⟩
          refine World.upholds_trans (World.append_upholds world ?_) upheld
          rw [same]
          exact ⟨_, rfl⟩

theorem init_moves (config : Config) (manager : Manager) :
    Request.Moves manager (manager.init config).2 (config.accepted?.map some) ∧
      (manager.init config).2.context.world = manager.context.world := by
  rw [init, Config.accepted?]
  cases config.check with
  | error violation => exact ⟨.kept rfl, rfl⟩
  | ok done => exact ⟨.cleared (some config) rfl, rfl⟩

end Manager

namespace Request

theorem run_effect (request : Request E) (manager : Manager) :
    Moves manager (request.run manager).2 request.configures ∧
      manager.context.world.Upholds (request.run manager).2.context.world := by
  have same := World.upholds_refl manager.context.world
  cases request with
  | init config =>
      obtain ⟨moves, world⟩ := Manager.init_moves config manager
      exact ⟨moves, world.symm ▸ same⟩
  | initFromFile content =>
      simp only [run, configures, Manager.initFromFile, Manager.initRead]
      cases Config.ofFile content with
      | error error => exact ⟨.kept rfl, same⟩
      | ok config =>
          obtain ⟨moves, world⟩ := Manager.init_moves config manager
          exact ⟨moves, world.symm ▸ same⟩
  | reset => exact ⟨.cleared none rfl, same⟩
  | operationNames => exact ⟨.kept rfl, same⟩
  | make state noted => exact ⟨.kept rfl, World.append_upholds _ ⟨_, rfl⟩⟩
  | register stand place =>
      simp only [run, configures]
      cases stands : manager.context.world.state? place with
      | none => exact ⟨.kept rfl, same⟩
      | some state =>
          have bound := World.state_bound place state manager.context.world stands
          simp only [Manager.register, Registry.register]
          by_cases known : manager.registry.tiers.contains stand.tier = true
          · rw [if_pos known]
            exact ⟨.registered stand ⟨place, World.nameOf state⟩ known bound rfl, same⟩
          · rw [if_neg known]
            exact ⟨.kept rfl, same⟩
  | operation name signature => exact Manager.operation_moves name signature manager _ rfl (World.upholds_refl _)
  | resolve call polls =>
      obtain ⟨places, ⟨kept, acted⟩ | ⟨looked, acted⟩⟩ := call.run_for_acted polls manager
      · exact ⟨.kept kept, World.acted_upholds acted⟩
      · exact Manager.operation_moves _ _ manager _ looked (World.acted_upholds acted)

theorem run_moves (request : Request E) (manager : Manager) :
    Moves manager (request.run manager).2 request.configures ∧
      manager.context.world.slots.length ≤ (request.run manager).2.context.world.slots.length :=
  ⟨(request.run_effect manager).1, World.upholds_length (request.run_effect manager).2⟩

theorem after_upholds (history : List (Request E)) (manager : Manager) :
    manager.context.world.Upholds (after history manager).context.world := by
  induction history generalizing manager with
  | nil => exact World.upholds_refl _
  | cons request rest ih => exact World.upholds_trans (request.run_effect manager).2 (ih _)

theorem after_grown (history : List (Request E)) (manager : Manager) :
    manager.context.world.slots.length ≤ (after history manager).context.world.slots.length :=
  World.upholds_length (after_upholds history manager)

end Request

end CacheTiers
