import CacheTiers.Proofs.Manager.Apart

namespace CacheTiers

-- A call that resolves a named operation, blocking unless its origin has a number of suspensions. `current` says whether
-- a suspending one is polled on a runtime.
structure NamedCall (E : Type) where
  site : CallSite
  R : Type
  form : ResultForm Json R
  key : Json
  given : Except (Failure E) R
  waits : Option Nat
  current : Bool
  elapsed : Float

structure NamedReport (E : Type) where
  call : NamedCall E
  result : Except (Failure E) call.R
  asked : Nat

variable {E : Type}

def NamedCall.run (call : NamedCall E) (manager : Manager) : Except (Failure E) call.R × Manager :=
  match call.waits with
  | none => manager.resolveNamed call.site call.form call.key (Session.originAction call.given) call.elapsed
  | some waits =>
    Manager.await
      (Manager.resolveNamedAsync call.site call.form call.key call.current (Session.originJob call.given waits) call.elapsed)
      manager

def NamedCall.resolved (call : NamedCall E) (found : Except CacheError (Operation TierRef)) (context : Context World) :
    Except (Failure E) call.R × Context World :=
  match call.waits, found with
  | none, .error error => (.error (.cache error), context)
  | none, .ok operation =>
    (operation.map World.tier).resolve call.form call.key (Session.originAction call.given) call.elapsed context
  | some _, .error error => (.error (.cache error), ⟨context.world.note .returned, context.metrics⟩)
  | some waits, .ok operation =>
    let ended := ((operation.map World.tier).resolveAsync call.form call.key call.current
      (Session.originJob call.given waits) call.elapsed).run context
    (ended.1.result, Resolve.settleDispatched ended.1.dispatched ⟨ended.2.world.note .returned, ended.2.metrics⟩)

theorem NamedCall.run_resolved (call : NamedCall E) (manager : Manager) :
    let found := manager.operationAt call.site call.form.shape
    call.run manager =
      ((call.resolved found.1 found.2.context).1, ⟨found.2.registry, (call.resolved found.1 found.2.context).2⟩) := by
  intro found
  rcases looked : manager.operationAt call.site call.form.shape with ⟨answer, after⟩
  have same : found = (answer, after) := looked
  rw [same]
  unfold NamedCall.run NamedCall.resolved
  cases call.waits with
  | none =>
      simp only [Manager.resolveNamed, looked]
      cases answer with
      | error error => rfl
      | ok operation => rfl
  | some waits =>
      dsimp only
      cases answer with
      | error error => exact Manager.await_refused call.site call.form call.key _ _ call.elapsed manager after error looked
      | ok operation =>
          rw [Manager.await_found call.site call.form call.key _ _ call.elapsed manager after operation looked]
          simp only [Manager.await, Job.run_on_context]

namespace Manager

def runAll : List (NamedCall E) → Manager → List (NamedReport E)
  | [], _ => []
  | call :: rest, manager =>
    let (result, after) := call.run manager
    ⟨call, result, World.asked after.context.world - World.asked manager.context.world⟩ :: runAll rest after

section Steps

variable {config : Config} {name : String} {owner : Nat → String} {links : List (Nat × Nat)} {gap : Int}
  {first second : Manager} {start : World}

theorem stacks_in_step (apart : World.OneToOne links) (operation other : Operation TierRef)
    (alike : BuiltAlike links operation other) :
    Resolve.Stacks (World.Linked name links gap start) (operation.map World.tier).tiers (other.map World.tier).tiers := by
  refine List.forall₂_map_left_iff.mpr (List.forall₂_map_right_iff.mpr (alike.tiers.imp ?_))
  exact fun ref twin member => World.tier_in_step apart ref twin member

theorem origin_job_alike {A : Type} (given : A) (waits : Nat) (world beside : World)
    (linked : World.Linked name links gap start world beside) :
    Alike (World.Linked name links gap start) Eq ((Session.originJob given waits).run world)
      ((Session.originJob given waits).run beside) := by
  have ended (world : World) : (Session.originJob given waits).run world =
      (given, (world.note .originStarted).note .originEnded) :=
    Job.run_after waits _ (world.note .originStarted)
  rw [ended, ended]
  exact ⟨rfl, World.note_linked .originEnded (World.note_linked .originStarted linked)⟩

theorem resolved_alike (apart : World.OneToOne links) (call : NamedCall E)
    (found given : Except CacheError (Operation TierRef))
    (context beside : Context World) (alike : FoundAlike links found given)
    (linked : World.Linked name links gap start context.world beside.world) :
    Alike (Context.Related (World.Linked name links gap start)) Eq (call.resolved found context)
      (call.resolved given beside) := by
  unfold NamedCall.resolved
  cases call.waits with
  | none =>
      rcases found_alike_ends alike with ⟨error, rfl, rfl⟩ | ⟨operation, other, rfl, rfl, alike⟩
      · exact ⟨rfl, linked⟩
      · exact Operation.resolve_alike _ _ call.form call.key _ _ call.elapsed context beside alike.name
          (stacks_in_step apart operation other alike)
          (fun world beside linked => ⟨rfl, World.note_linked .origin linked⟩) linked
  | some waits =>
      rcases found_alike_ends alike with ⟨error, rfl, rfl⟩ | ⟨operation, other, rfl, rfl, alike⟩
      · exact ⟨rfl, World.note_linked .returned linked⟩
      · have ended := Operation.resolve_async_alike _ _ call.form call.key call.current (Session.originJob call.given waits)
          (Session.originJob call.given waits) call.elapsed context beside alike.name
          (stacks_in_step apart operation other alike) alike.runtime (origin_job_alike call.given waits) linked
        obtain ⟨⟨answer, settles⟩, still⟩ := ended
        exact ⟨answer, settles _ _ (World.note_linked .returned still)⟩

theorem call_follows (sound : config.WellFormed) (call : NamedCall E)
    (follows : Follows config call.site.operation owner links first second) :
    (call.run first).1 = (call.run second).1 ∧
      (∃ owner' links', Follows config call.site.operation owner' links' (call.run first).2 (call.run second).2) ∧
      World.asked (call.run first).2.context.world - World.asked first.context.world =
        World.asked (call.run second).2.context.world - World.asked second.context.world := by
  obtain ⟨owner', links', after, alike⟩ := operation_at_follows sound call.site call.form.shape follows
  have quiet := operation_at_asked call.site call.form.shape first follows.configured
  have quietBeside := operation_at_asked call.site call.form.shape second follows.configuredBeside
  rw [call.run_resolved first, call.run_resolved second]
  rcases here : first.operationAt call.site call.form.shape with ⟨found, later⟩
  rcases there : second.operationAt call.site call.form.shape with ⟨given, beside⟩
  rw [here, there] at after alike
  rw [here] at quiet
  rw [there] at quietBeside
  obtain ⟨gap, linked⟩ := after.linked
  obtain ⟨answer, still⟩ := resolved_alike after.apart call found given later.context beside.context alike linked
  refine ⟨answer, ⟨owner', links', follows_resolved _ _ after still⟩, ?_⟩
  have before := linked.asked
  have counted := still.asked
  dsimp only at quiet quietBeside before counted ⊢
  omega

def diagonal (places : List Nat) : List (Nat × Nat) := places.map fun place => (place, place)

theorem mem_diagonal (places : List Nat) (link : Nat × Nat) :
    link ∈ diagonal places ↔ link.1 ∈ places ∧ link.2 = link.1 := by
  obtain ⟨place, other⟩ := link
  simp only [diagonal, List.mem_map, Prod.mk.injEq]
  constructor
  · rintro ⟨_, member, rfl, rfl⟩
    exact ⟨member, rfl⟩
  · rintro ⟨member, rfl⟩
    exact ⟨_, member, rfl, rfl⟩

theorem diagonal_linked (places : List Nat) (world : World)
    (answering : ∀ endpoint, (world.server endpoint).script = [])
    (made : ∀ place ∈ places, ∃ state, world.state? place = some state ∧ state.MadeFor name) :
    World.OneToOne (diagonal places) ∧ World.Linked name (diagonal places) 0 world world world := by
  refine ⟨?_, ?_, fun _ _ => rfl, fun endpoint => Redis.Server.agree_refl _ (answering endpoint),
    fun endpoint => Redis.Server.agree_refl _ (answering endpoint), (Int.add_zero _).symm⟩
  · intro link member other among
    rw [((mem_diagonal places link).mp member).2, ((mem_diagonal places other).mp among).2]
  · intro link member
    obtain ⟨among, same⟩ := (mem_diagonal places link).mp member
    obtain ⟨state, read, fits⟩ := made link.1 among
    exact ⟨state, read, same ▸ read, fits⟩

theorem built_diagonal (other : String) (signature : Signature) (operation : Operation TierRef)
    (follows : Follows config name owner links first second)
    (built : first.registry.built.find? (other, signature) = some operation) :
    ∃ places, BuiltAlike (diagonal places) operation operation ∧ (∀ link ∈ diagonal places, owner link.1 = other) ∧
      ∀ place ∈ places, ∃ state, first.context.world.state? place = some state ∧ state.MadeFor other := by
  obtain ⟨_, tiers⟩ := follows.owned other signature operation built
  refine ⟨operation.tiers.map TierRef.index, ⟨rfl, rfl, rfl, ?_⟩, ?_, ?_⟩
  · refine List.forall₂_same.mpr fun ref member => ?_
    exact (mem_diagonal _ _).mpr ⟨List.mem_map_of_mem member, rfl⟩
  · intro link member
    obtain ⟨ref, among, same⟩ := List.mem_map.mp ((mem_diagonal _ _).mp member).1
    rw [← same]
    exact (tiers ref among).1
  · intro place member
    obtain ⟨ref, among, rfl⟩ := List.mem_map.mp member
    exact (tiers ref among).2

theorem refused_idle (call : NamedCall E) (error : CacheError) (context : Context World) :
    ∃ journal, (call.resolved (.error error) context).2.world = { context.world with journal } := by
  unfold NamedCall.resolved
  cases call.waits with
  | none => exact ⟨context.world.journal, rfl⟩
  | some waits => exact ⟨context.world.journal ++ [.returned], rfl⟩

theorem call_beside (sound : config.WellFormed) (named : Config.SoundName name) (call : NamedCall E)
    (different : call.site.operation ≠ name) (follows : Follows config name owner links first second) :
    ∃ owner', Follows config name owner' links (call.run first).2 second := by
  obtain ⟨owner', after, built⟩ := operation_at_beside sound call.site call.form.shape different follows
  refine ⟨owner', ?_⟩
  rw [call.run_resolved first]
  rcases here : first.operationAt call.site call.form.shape with ⟨found, later⟩
  rw [here] at after built
  cases found with
  | error error => exact follows_idle _ after (refused_idle call error later.context)
  | ok operation =>
      have built := built operation rfl
      obtain ⟨gap, mine⟩ := after.linked
      obtain ⟨places, alike, owners, made⟩ := built_diagonal call.site.operation _ operation after built
      obtain ⟨apart, linked⟩ := diagonal_linked places later.context.world
        (fun endpoint => (mine.shared endpoint).answering.1) made
      obtain ⟨_, still⟩ := resolved_alike apart call (.ok operation) (.ok operation) later.context later.context alike linked
      have sound := (after.owned call.site.operation _ operation built).1
      exact follows_disturbed named call.site.operation sound different _ owners _ _ after still

theorem start_follows (start : Manager) (name : String) (started : start.registry = Registry.ofConfig config)
    (answering : ∀ endpoint, (start.context.world.server endpoint).script = []) :
    Follows config name (fun _ => name) [] start start := by
  have unbuilt (asked : String × Signature) : start.registry.built.find? asked = none := by
    rw [started]
    rfl
  have configured : start.Configured config := by rw [Configured, started]
  refine ⟨List.forall_mem_nil _, configured, configured, ?_, List.forall_mem_nil _, ⟨0, ?_⟩, ?_⟩
  · intro other signature operation built
    rw [unbuilt] at built
    cases built
  · exact ⟨List.forall_mem_nil _, fun _ _ => rfl, fun endpoint => Redis.Server.agree_refl _ (answering endpoint),
      fun endpoint => Redis.Server.agree_refl _ (answering endpoint), (Int.add_zero _).symm⟩
  · intro signature
    rw [unbuilt]
    exact .none

end Steps

variable {config : Config} {name : String} {owner : Nat → String} {links : List (Nat × Nat)} {first second : Manager}

theorem run_all_follows (sound : config.WellFormed) (named : Config.SoundName name) (calls : List (NamedCall E))
    (follows : Follows config name owner links first second) :
    (runAll calls first).filter (fun report => report.call.site.operation = name) =
      runAll (calls.filter fun call => call.site.operation = name) second := by
  -- The second manager takes the calls of the one operation only; a call of another one leaves it where it is.
  induction calls generalizing owner links first second with
  | nil => rfl
  | cons call rest ih =>
      rw [runAll]
      by_cases same : call.site.operation = name
      · subst same
        obtain ⟨answer, ⟨owner', links', after⟩, asked⟩ := call_follows sound call follows
        rw [List.filter_cons_of_pos (by simp), List.filter_cons_of_pos (by simp), runAll, answer, asked, ih after]
      · obtain ⟨owner', after⟩ := call_beside sound named call same follows
        rw [List.filter_cons_of_neg (by simpa using same), List.filter_cons_of_neg (by simpa using same), ih after]

theorem operations_do_not_interfere (config : Config) (previous start : Manager) (calls : List (NamedCall E))
    (mine other : String) (accepted : previous.init config = (.ok (), start))
    (configured : (config.operations.find? mine).isSome)
    (answering : ∀ endpoint, (start.context.world.server endpoint).script = []) (different : mine ≠ other) :
    (start.runAll (calls.filter fun call => call.site.operation ≠ other)).filter
        (fun report => report.call.site.operation = mine) =
      (start.runAll calls).filter fun report => report.call.site.operation = mine := by
  obtain ⟨sound, started, _⟩ := init_accepted config previous start accepted
  obtain ⟨setup, found⟩ := Option.isSome_iff_exists.mp configured
  have named := (sound.operations mine setup found).name
  have follows := start_follows start mine started answering
  rw [run_all_follows sound named _ follows, run_all_follows sound named calls follows, List.filter_filter]
  congr 1
  refine List.filter_congr fun call _ => ?_
  by_cases same : call.site.operation = mine
  · simp [same, different]
  · simp [same]

-- One server for all tiers; the prefix of one tier ends like the keys of an operation that uses the other begin.
def sharedConfig : Config where
  version := none
  defaultTtl := 60
  enableMetrics := false
  tiers := .ofList [("near", .redis ⟨"redis://cache:1", some "app", none, 1000, 1000⟩),
    ("far", .redis ⟨"redis://cache:1", some "app:users", none, 1000, 1000⟩)]
  operations := .ofList [("users", ⟨["near"], ["id"], .plain⟩), ("names", ⟨["far", "near"], ["id"], .plain⟩)]

def sharedServers : Table Redis.Endpoint Redis.Server := .ofList [(.tcp "cache" 1, .new true 1)]

def sharedStart : Manager := ((⟨.empty, ⟨⟨[], sharedServers, []⟩, .empty⟩⟩ : Manager).init sharedConfig).2

def sharedCall (operation value : String) (waits : Option Nat) : NamedCall String :=
  ⟨⟨operation, ["id"], .natural 64, .str⟩, Json, .plain, .int 1, .ok (.str value), waits, true, 0⟩

def sharedCalls : List (NamedCall String) :=
  [sharedCall "users" "ada" none, sharedCall "names" "eve" (some 1), sharedCall "users" "bob" (some 0)]

theorem shared_server_does_not_interfere :
    ((sharedStart.runAll sharedCalls).filter fun report => report.call.site.operation = "users").map
        (fun report => (report.result.toOption.bind report.call.form.toValue?, report.asked)) =
      [(some (.str "ada"), 1), (some (.str "ada"), 0)] := by
  have accepted : (⟨.empty, ⟨⟨[], sharedServers, []⟩, .empty⟩⟩ : Manager).init sharedConfig = (.ok (), sharedStart) := by
    have ended : ((⟨.empty, ⟨⟨[], sharedServers, []⟩, .empty⟩⟩ : Manager).init sharedConfig).1 = .ok () := by rfl
    rw [← ended]; rfl
  have answering : ∀ endpoint, (sharedStart.context.world.server endpoint).script = [] := by
    intro endpoint
    have same : sharedStart.context.world.server endpoint = (sharedServers.find? endpoint).getD (.new false 0) := rfl
    rw [same, sharedServers]
    simp only [Table.ofList, List.foldl_cons, List.foldl_nil, Table.find?_insert]
    split <;> rfl
  rw [← operations_do_not_interfere sharedConfig _ sharedStart sharedCalls "users" "names" accepted rfl answering (by decide)]
  decide +kernel

end Manager

end CacheTiers
