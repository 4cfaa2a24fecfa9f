import CacheTiers.Memoised.Samples
import CacheTiers.Proofs.Manager.Await
import CacheTiers.Proofs.Manager.Build
import CacheTiers.Proofs.World.Memories

namespace CacheTiers

structure UsesMemory (config : Config) (setup : OperationSetup) : Prop where
  each : ∀ name ∈ setup.tiers, ∃ memory, config.tiers.find? name = some (.memory memory)

namespace Registry

def FreshMemory (state : TierState) : Prop :=
  ∃ memory : Memory Json Json, state = .memory memory ∧ memory.keeps = true ∧ ∀ key, memory.find? key = none

theorem fresh_memory (config : Config) (sound : config.WellFormed) (operation name : String) (valueType : ValueType)
    (setup : MemorySetup) (found : config.tiers.find? name = some (.memory setup)) :
    ∃ tier state, (Registry.ofConfig config).tiers.find? name = some tier ∧
      stateFor name operation valueType tier = .ok state ∧ FreshMemory state := by
  obtain ⟨ttl, positive, effective⟩ := Config.effective_tier config sound name _ found
  refine ⟨_, _, effective, rfl, _, rfl, ?_, ?_⟩
  · have lives : ttl ≠ 0 := by omega
    simp [Memory.new, Memory.keeps, lives]
  · intro key
    rw [Memory.find?]
    split
    · exact Table.find?_empty key
    · rfl

theorem memory_states (config : Config) (sound : config.WellFormed) (operation : String) (valueType : ValueType)
    (names : List String) (memory : ∀ name ∈ names, ∃ setup, config.tiers.find? name = some (.memory setup)) :
    ∃ states, (Registry.ofConfig config).statesFor operation valueType names = .ok states ∧
      ∀ state ∈ states, FreshMemory state := by
  induction names with
  | nil => exact ⟨[], rfl, by simp⟩
  | cons name rest ih =>
      obtain ⟨setup, found⟩ := memory name (by simp)
      obtain ⟨states, made, fresh⟩ := ih (fun other member => memory other (by simp [member]))
      obtain ⟨tier, state, effective, first, empty⟩ := fresh_memory config sound operation name valueType setup found
      refine ⟨state :: states, ?_, List.forall_mem_cons.mpr ⟨empty, fresh⟩⟩
      simp only [statesFor, effective, first, made, Except.map]

theorem materialise_memory (config : Config) (sound : config.WellFormed) (name : String) (signature : Signature)
    (setup : OperationSetup) (world : World) (configured : config.operations.find? name = some setup)
    (uses : UsesMemory config setup) (fits : setup.shape.accepts signature.shape = true) :
    ∃ states, (∀ state ∈ states, FreshMemory state) ∧ states ≠ [] ∧
      (Registry.ofConfig config).materialise name signature world =
        .ok (⟨name, World.refsFrom world.slots.length states, setup.key, setup.shape, false⟩, world.addAll states) := by
  have operation := sound.operations name setup configured
  obtain ⟨states, made, fresh⟩ := memory_states config sound name signature.value setup.tiers uses.each
  have names := states_for_names _ name signature.value setup.tiers states made
  have inhabited : states ≠ [] := by
    rintro rfl
    exact operation.nonempty names.symm
  refine ⟨states, fresh, inhabited, ?_⟩
  rw [materialise_states (Registry.ofConfig config) name signature setup world rfl configured, made]
  dsimp only
  have refs := World.refs_from_inhabited world.slots.length states inhabited
  have distinct : ((World.refsFrom world.slots.length states).map TierRef.name).Nodup := by
    rw [World.refs_from_name, names]
    exact operation.distinct
  rw [Draft.build_sound TierRef.name signature.shape (draftOf name setup (World.refsFrom world.slots.length states))
    ⟨refs, distinct, operation.key, (Draft.accepts_iff (some setup.shape) signature.shape).mp fits⟩]
  rfl

end Registry

namespace Manager

-- The operation has been built, and its tiers are memory tiers that all hold the entries.
structure Serves (manager : Manager) (name : String) (signature : Signature) (operation : Operation TierRef)
    (entries : Json → Option Json) : Prop where
  built : manager.registry.built.find? (name, signature) = some operation
  inhabited : operation.tiers ≠ []
  apart : operation.places.Nodup
  memories : Memories operation.places entries manager.context.world.state?

theorem stack_runs (operation : Operation TierRef) :
    List.Forall₂ (World.cells operation.places).Runs operation.places
      (operation.map World.tier).tiers := by
  refine List.forall₂_map_left_iff.mpr (List.forall₂_map_right_iff.mpr (List.forall₂_same.mpr ?_))
  intro ref member
  exact World.tier_runs _ ref (List.mem_map_of_mem member)

variable {R E : Type}

theorem resolve_recalled (name : String) (signature : Signature) (operation : Operation TierRef) (manager : Manager)
    (entries : Json → Option Json) (form : ResultForm Json R) (key : Json) (given : Except (Failure E) R)
    (origin : World → Except (Failure E) R × World) (elapsed : Float)
    (gives : (World.cells operation.places).Gives given origin)
    (serves : manager.Serves name signature operation entries) :
    let called := manager.onContext ((operation.map World.tier).resolve form key origin elapsed)
    called.1 = (Memories.recalled operation.name form key given entries).1 ∧
      called.2.Serves name signature operation (Memories.recalled operation.name form key given entries).2 ∧
      World.asked called.2.context.world =
        World.asked manager.context.world + if (entries key).isSome then 0 else 1 := by
  have valid := serves.memories.valid manager.context.world rfl
  have inhabited : operation.places ≠ [] := by
    simpa [Operation.places] using serves.inhabited
  obtain ⟨answered, moves⟩ := Operation.resolve_comes (World.cells operation.places)
    (operation.map World.tier) form key operation.places given origin elapsed manager.context
    (stack_runs operation) gives valid inhabited
  have recalled := serves.memories.resolved_recalled operation.places (World.cells operation.places).fill
    (World.cells operation.places).fill operation.name form key given inhabited (fun value => rfl)
    (fun value => serves.memories.fill_taken _ key value serves.apart)
  have unknown : (World.cells operation.places).asks key operation.places
      ((World.cells operation.places).contents manager.context.world) = _ :=
    serves.memories.asks_unknown operation.places key inhabited
  have asked := moves.asked
  rw [unknown] at asked
  have reached := (congrArg (Memories operation.places _) moves.contents).mpr recalled.2
  exact ⟨answered.trans recalled.1, ⟨serves.built, serves.inhabited, serves.apart, reached⟩, asked⟩

theorem await_recalled (name : String) (signature : Signature) (operation : Operation TierRef) (manager : Manager)
    (entries : Json → Option Json) (form : ResultForm Json R) (key : Json) (given : Except (Failure E) R)
    (current : Bool) (origin : Job World (Except (Failure E) R)) (elapsed : Float)
    (gives : (World.cells operation.places).GivesLate given origin)
    (serves : manager.Serves name signature operation entries) :
    let called := await ((operation.map World.tier).resolveAsync form key current origin elapsed).onContext manager
    called.1 = (Memories.recalled operation.name form key given entries).1 ∧
      called.2.Serves name signature operation (Memories.recalled operation.name form key given entries).2 ∧
      World.asked called.2.context.world =
        World.asked manager.context.world + if (entries key).isSome then 0 else 1 := by
  have valid := serves.memories.valid manager.context.world rfl
  have inhabited : operation.places ≠ [] := by
    simpa [Operation.places] using serves.inhabited
  simp only [await, Job.run_on_context]
  have rests (world : World) : (World.cells operation.places).Rests world (world.note .returned) :=
    fun valid => ⟨valid, rfl, World.asked_note .returned world rfl⟩
  obtain ⟨answered, moves⟩ := Operation.resolve_async_comes (World.cells operation.places)
    (operation.map World.tier) form key operation.places given origin current elapsed manager.context
    (stack_runs operation) serves.apart gives valid inhabited
    ⟨(((operation.map World.tier).resolveAsync form key current origin elapsed).run manager.context).2.world.note .returned,
      (((operation.map World.tier).resolveAsync form key current origin elapsed).run manager.context).2.metrics⟩ (rests _)
  have recalled := serves.memories.resolved_recalled operation.places
    ((World.cells operation.places).behind (operation.backfillRuntime || current))
    (World.cells operation.places).issue operation.name form key given inhabited
    (fun value => (World.cells operation.places).behind_nowhere _ key value _)
    (fun value => serves.memories.issue_taken _ key value)
  have unknown : (World.cells operation.places).asks key operation.places
      ((World.cells operation.places).contents manager.context.world) = _ :=
    serves.memories.asks_unknown operation.places key inhabited
  have asked := moves.asked
  rw [unknown] at asked
  have reached := (congrArg (Memories operation.places _) moves.contents).mpr recalled.2
  exact ⟨answered.trans recalled.1, ⟨serves.built, serves.inhabited, serves.apart, reached⟩, asked⟩

end Manager

namespace Body

variable {S R E : Type}

def given (body : Body S R E) (receiver : S) (arguments : List Json) : Except (Failure E) R :=
  match body with
  | .blocking run => run receiver arguments
  | .suspending _ run => run receiver arguments

end Body

namespace Memoised

variable {S R E : Type}

-- The operation of the function is built or about to be, and its tiers hold the entries.
def Ready (function : Memoised S R E) (operation : Operation TierRef) (entries : Json → Option Json)
    (manager : Manager) : Prop :=
  ∃ after : Manager, manager.operationAt function.site function.form.shape = (.ok operation, after) ∧
    operation.keyParams = function.site.params ∧
    after.Serves function.operation (function.site.signature function.form.shape) operation entries ∧
    World.asked after.context.world = World.asked manager.context.world

theorem ready_of_serves (function : Memoised S R E) (operation : Operation TierRef) (entries : Json → Option Json)
    (manager : Manager) (params : operation.keyParams = function.site.params)
    (serves : manager.Serves function.operation (function.site.signature function.form.shape) operation entries) :
    function.Ready operation entries manager :=
  ⟨manager, Manager.operation_at_fits function.site function.form.shape operation manager manager
    (Manager.operation_built _ _ operation manager serves.built) params, params, serves, rfl⟩

theorem call_recalled (function : Memoised S R E) (receiver : S) (arguments : List Json) (current : Bool)
    (elapsed : Float) (operation : Operation TierRef) (entries : Json → Option Json) (manager : Manager)
    (ready : function.Ready operation entries manager) :
    let told := Memories.recalled operation.name function.form (Key.ofArguments arguments)
      (function.body.given receiver arguments) entries
    let called := function.call receiver arguments current elapsed manager
    called.1 = told.1 ∧ function.Ready operation told.2 called.2 ∧
      World.asked called.2.context.world =
        World.asked manager.context.world + if (entries (Key.ofArguments arguments)).isSome then 0 else 1 := by
  obtain ⟨after, found, params, serves, unasked⟩ := ready
  intro told called
  simp only [told, called, call]
  cases ran : function.body with
  | blocking run =>
      have gives : (World.cells operation.places).Gives (run receiver arguments)
          fun world => (run receiver arguments, world.note .body) :=
        fun world valid => ⟨rfl, World.note_moves operation.places .body world rfl valid⟩
      obtain ⟨answered, served, asked⟩ := Manager.resolve_recalled _ _ operation after entries function.form
        (Key.ofArguments arguments) _ _ elapsed gives serves
      simp only [Manager.resolveNamed, found]
      exact ⟨answered, ready_of_serves function operation _ _ params served, unasked ▸ asked⟩
  | suspending waits run =>
      have gives : (World.cells operation.places).GivesLate (run receiver arguments)
          fun world => Job.after waits (fun world => (run receiver arguments, world)) (world.note .body) := by
        intro world valid
        have started : Job.run (fun world => Job.after waits (fun world => (run receiver arguments, world)) (world.note .body))
            world = (run receiver arguments, world.note .body) :=
          Job.run_after waits (fun world => (run receiver arguments, world)) (world.note .body)
        rw [started]
        exact ⟨rfl, World.note_moves operation.places .body world rfl valid⟩
      obtain ⟨answered, served, asked⟩ := Manager.await_recalled _ _ operation after entries function.form
        (Key.ofArguments arguments) _ current _ elapsed gives serves
      have same : Manager.await (Manager.resolveNamedAsync function.site function.form (Key.ofArguments arguments) current
          (fun world => Job.after waits (fun world => (run receiver arguments, world)) (world.note .body)) elapsed) manager =
          _ := Manager.await_found _ _ _ _ _ elapsed manager after operation found
      dsimp only
      rw [same]
      exact ⟨answered, ready_of_serves function operation _ _ params served, unasked ▸ asked⟩

structure Use (S : Type) where
  receiver : S
  arguments : List Json
  current : Bool
  elapsed : Float

structure Report (R E : Type) where
  arguments : List Json
  result : Except (Failure E) R

def useAll (function : Memoised S R E) : List (Use S) → Manager → List (Report R E) × Manager
  | [], manager => ([], manager)
  | use :: rest, manager =>
    let (result, after) := function.call use.receiver use.arguments use.current use.elapsed manager
    let (reports, final) := useAll function rest after
    (⟨use.arguments, result⟩ :: reports, final)

def Report.value? (form : ResultForm Json R) (report : Report R E) : Option Json :=
  match report.result with
  | .ok result => form.toValue? result
  | .error _ => none

theorem value_result {form : ResultForm Json R} (faithful : form.Faithful) (report : Report R E) (value : Json)
    (shows : report.value? form = some value) : report.result = .ok (form.ofValue value) := by
  rw [Report.value?] at shows
  cases ended : report.result with
  | ok result =>
      rw [ended] at shows
      rw [faithful.rebuilds result value shows]
  | error failure => simp [ended] at shows

-- What the tiers hold after some calls, told by the reports of these calls.
structure Remembers (form : ResultForm Json R) (arity : Nat) (reports : List (Report R E))
    (entries : Json → Option Json) : Prop where
  held : ∀ arguments value, arguments.length = arity → entries (Key.ofArguments arguments) = some value →
    ∃ report ∈ reports, report.arguments = arguments ∧ report.value? form = some value
  reported : ∀ report ∈ reports, ∀ value, report.value? form = some value →
    entries (Key.ofArguments report.arguments) = some value

theorem remembers_idle (form : ResultForm Json R) (arity : Nat) (reports : List (Report R E)) (report : Report R E)
    (entries : Json → Option Json) (remembers : Remembers form arity reports entries)
    (known : ∀ value, report.value? form = some value → entries (Key.ofArguments report.arguments) = some value) :
    Remembers form arity (reports ++ [report]) entries := by
  constructor
  · intro arguments value length held
    obtain ⟨other, member, same⟩ := remembers.held arguments value length held
    exact ⟨other, List.mem_append_left _ member, same⟩
  · intro other member value shows
    rcases List.mem_append.mp member with old | new
    · exact remembers.reported other old value shows
    · obtain rfl := List.mem_singleton.mp new
      exact known value shows

theorem remembers_learn (form : ResultForm Json R) (arity : Nat) (reports : List (Report R E)) (report : Report R E)
    (entries : Json → Option Json) (value : Json) (remembers : Remembers form arity reports entries)
    (length : report.arguments.length = arity) (absent : entries (Key.ofArguments report.arguments) = none)
    (shows : report.value? form = some value) :
    Remembers form arity (reports ++ [report]) (Memories.learn (Key.ofArguments report.arguments) value entries) := by
  constructor
  · intro arguments found arity' held
    rw [Memories.learn] at held
    by_cases same : Key.ofArguments arguments = Key.ofArguments report.arguments
    · rw [if_pos same] at held
      cases held
      have equal := Key.of_arguments_injective arguments report.arguments (arity'.trans length.symm) same
      exact ⟨report, by simp, equal.symm, shows⟩
    · rw [if_neg same] at held
      obtain ⟨other, member, same⟩ := remembers.held arguments found arity' held
      exact ⟨other, List.mem_append_left _ member, same⟩
  · intro other member found shown
    rw [Memories.learn]
    rcases List.mem_append.mp member with old | new
    · have held := remembers.reported other old found shown
      by_cases same : Key.ofArguments other.arguments = Key.ofArguments report.arguments
      · rw [same, absent] at held
        cases held
      · rw [if_neg same]
        exact held
    · obtain rfl := List.mem_singleton.mp new
      rw [if_pos rfl, ← shows, ← shown]

theorem recalled_remembers (operation : String) (form : ResultForm Json R) (faithful : form.Faithful) (arity : Nat)
    (reports : List (Report R E)) (entries : Json → Option Json) (arguments : List Json)
    (given : Except (Failure E) R) (remembers : Remembers form arity reports entries)
    (length : arguments.length = arity) :
    let told := Memories.recalled operation form (Key.ofArguments arguments) given entries
    Remembers form arity (reports ++ [⟨arguments, told.1⟩]) told.2 ∧
      (entries (Key.ofArguments arguments) = none → told.1 = given) := by
  intro told
  simp only [told, Memories.recalled]
  cases held : entries (Key.ofArguments arguments) with
  | some value =>
      refine ⟨remembers_idle form arity reports _ entries remembers ?_, by simp⟩
      intro found shows
      simp only [Report.value?, faithful.reads_back] at shows
      rw [← shows]
      exact held
  | none =>
      cases given with
      | error failure => exact ⟨remembers_idle form arity reports _ entries remembers (by simp [Report.value?]), fun _ => rfl⟩
      | ok result =>
          dsimp only
          cases present : form.toValue? result with
          | some value =>
              have same := faithful.rebuilds result value present
              refine ⟨remembers_learn form arity reports _ entries value remembers length held ?_,
                fun _ => congrArg Except.ok same⟩
              exact faithful.reads_back value
          | none =>
              have absent : Resolve.absentResult (E := E) form operation = .ok result := by
                rw [Resolve.absentResult, faithful.absent_without_value result present]
              refine ⟨remembers_idle form arity reports _ entries remembers ?_, fun _ => absent⟩
              intro found shows
              simp [Report.value?, absent, present] at shows

theorem use_all_remembers (function : Memoised S R E) (faithful : function.form.Faithful) (uses : List (Use S))
    (operation : Operation TierRef) (entries : Json → Option Json) (past : List (Report R E)) (manager : Manager)
    (arity : ∀ use ∈ uses, use.arguments.length = function.arguments.length)
    (ready : function.Ready operation entries manager)
    (remembers : Remembers function.form function.arguments.length past entries) :
    ∃ entries', function.Ready operation entries' (function.useAll uses manager).2 ∧
      Remembers function.form function.arguments.length (past ++ (function.useAll uses manager).1) entries' := by
  induction uses generalizing entries past manager with
  | nil => exact ⟨entries, ready, by simpa [useAll] using remembers⟩
  | cons use rest ih =>
      obtain ⟨length, others⟩ := List.forall_mem_cons.mp arity
      obtain ⟨answered, served, _⟩ := call_recalled function use.receiver use.arguments use.current use.elapsed operation entries
        manager ready
      have learnt := (recalled_remembers operation.name function.form faithful function.arguments.length past entries
        use.arguments (function.body.given use.receiver use.arguments) remembers length).1
      rw [← answered] at learnt
      obtain ⟨entries', last, known⟩ := ih _ _ _ others served learnt
      refine ⟨entries', last, ?_⟩
      simpa [useAll] using known

theorem init_ready (config : Config) (setup : OperationSetup) (function : Memoised S R E) (previous start : Manager)
    (accepted : previous.init config = (.ok (), start)) (configured : config.operations.find? function.operation = some setup)
    (memory : UsesMemory config setup) (params : function.arguments.map Prod.fst = setup.key)
    (fits : setup.shape.accepts function.form.shape = true) :
    ∃ operation, function.Ready operation (fun _ => none) start := by
  obtain ⟨sound, registry, _⟩ := Manager.init_accepted config previous start accepted
  obtain ⟨states, fresh, inhabited, made⟩ := Registry.materialise_memory config sound function.operation
    (function.site.signature function.form.shape) setup start.context.world configured memory fits
  have unbuilt : start.registry.built.find? (function.operation, function.site.signature function.form.shape) = none := by
    rw [registry]
    rfl
  rw [← registry] at made
  have step := Manager.operation_made function.operation (function.site.signature function.form.shape) _ _ start unbuilt made
  refine ⟨_, _, Manager.operation_at_fits function.site function.form.shape _ start _ step params.symm, params.symm,
    ⟨?_, ?_, ?_, ⟨?_⟩⟩, rfl⟩
  · simp [Manager.holding]
  · exact World.refs_from_inhabited start.context.world.slots.length states inhabited
  · rw [Operation.places, World.refs_from_index]
    exact List.nodup_range'
  · intro place member
    obtain ⟨ref, among, rfl⟩ := List.mem_map.mp member
    obtain ⟨state, made, read⟩ := World.add_all_new states start.context.world ref among
    obtain ⟨memory, rfl, keeps, empty⟩ := fresh state made
    exact ⟨memory, read, keeps, empty⟩

-- The calls before one call are arbitrary, so this holds of every call of every sequence of calls. Whatever the
-- receivers are, only the arguments tell calls apart.
theorem calls_memoise_exactly (config : Config) (setup : OperationSetup) (function : Memoised S R E)
    (previous start : Manager) (earlier : List (Use S)) (use : Use S)
    (accepted : previous.init config = (.ok (), start)) (configured : config.operations.find? function.operation = some setup)
    (memory : UsesMemory config setup) (params : function.arguments.map Prod.fst = setup.key)
    (fits : setup.shape.accepts function.form.shape = true) (faithful : function.form.Faithful)
    (arity : ∀ other ∈ use :: earlier, other.arguments.length = function.arguments.length) :
    let before := function.useAll earlier start
    let called := function.call use.receiver use.arguments use.current use.elapsed before.2
    let known := fun report : Report R E => report.arguments = use.arguments ∧ (report.value? function.form).isSome
    (World.asked called.2.context.world = World.asked before.2.context.world ∨
        World.asked called.2.context.world = World.asked before.2.context.world + 1) ∧
      (World.asked called.2.context.world = World.asked before.2.context.world ↔ ∃ report ∈ before.1, known report) ∧
      (∀ report ∈ before.1, known report → called.1 = report.result) ∧
      ((∀ report ∈ before.1, ¬ known report) → called.1 = function.body.given use.receiver use.arguments) := by
  intro before called known
  obtain ⟨length, lengths⟩ := List.forall_mem_cons.mp arity
  obtain ⟨operation, ready⟩ := init_ready config setup function previous start accepted configured memory params fits
  have nothing : Remembers (E := E) function.form function.arguments.length [] fun _ => none :=
    ⟨by simp, List.forall_mem_nil _⟩
  obtain ⟨entries, served, remembers⟩ := use_all_remembers function faithful earlier operation _ [] start lengths ready nothing
  rw [List.nil_append] at remembers
  obtain ⟨answered, _, asked⟩ := call_recalled function use.receiver use.arguments use.current use.elapsed operation entries
    before.2 served
  have told := (recalled_remembers operation.name function.form faithful function.arguments.length before.1 entries
    use.arguments (function.body.given use.receiver use.arguments) remembers length).2
  cases held : entries (Key.ofArguments use.arguments) with
  | some value =>
      obtain ⟨report, member, same, shows⟩ := remembers.held use.arguments value length held
      have quiet : World.asked called.2.context.world = World.asked before.2.context.world := by
        simpa [held] using asked
      have recalled : called.1 = .ok (function.form.ofValue value) := by
        simpa [Memories.recalled, held] using answered
      have knows : known report := ⟨same, by rw [shows]; rfl⟩
      refine ⟨.inl quiet, ⟨fun _ => ⟨report, member, knows⟩, fun _ => quiet⟩, ?_,
        fun none => absurd knows (none report member)⟩
      rintro other among ⟨equal, shown⟩
      obtain ⟨found, shows⟩ := Option.isSome_iff_exists.mp shown
      have reported := remembers.reported other among found shows
      rw [equal, held] at reported
      rw [recalled, Option.some.inj reported]
      exact (value_result faithful other found shows).symm
  | none =>
      have ran : World.asked called.2.context.world = World.asked before.2.context.world + 1 := by
        simpa [held] using asked
      have unknown (report : Report R E) (member : report ∈ before.1) : ¬ known report := by
        rintro ⟨same, shown⟩
        obtain ⟨found, shows⟩ := Option.isSome_iff_exists.mp shown
        have reported := remembers.reported report member found shows
        rw [same, held] at reported
        cases reported
      refine ⟨.inr ran, ⟨fun quiet => by omega, ?_⟩, fun report member knows => absurd knows (unknown report member),
        fun _ => answered.trans (told held)⟩
      rintro ⟨report, member, knows⟩
      exact absurd knows (unknown report member)

def userConfig : Config where
  version := some 1
  defaultTtl := 60
  enableMetrics := false
  tiers := .ofList [("near", .memory ⟨10, none⟩), ("far", .memory ⟨100, some 5⟩)]
  operations := .ofList [("macro_user", ⟨["near", "far"], ["id"], .plain⟩),
    ("macro_lookup", ⟨["far"], ["id", "region"], .optional⟩)]

def userStart : Manager := (Manager.empty.init userConfig).2

def userCalls : List (Use Unit) := [⟨(), [.int 0], true, 0⟩, ⟨(), [.int 7], false, 0⟩, ⟨(), [.int 7], true, 0⟩]

def nowhere : Use Unit := ⟨(), [.int 7, .str ""], false, 0⟩

theorem repeated_calls_are_remembered :
    (let before := loadUser.useAll userCalls userStart
      let called := loadUser.call () [.int 7] false 0 before.2
      called.1 = .ok (.str "user-7") ∧ World.asked called.2.context.world = World.asked before.2.context.world) ∧
      let before := lookupRegion.useAll [nowhere] userStart
      let called := lookupRegion.call () nowhere.arguments false 0 before.2
      World.asked called.2.context.world = World.asked before.2.context.world + 1 := by
  have accepted : Manager.empty.init userConfig = (.ok (), userStart) := by
    have ended : (Manager.empty.init userConfig).1 = .ok () := by rfl
    rw [← ended]; rfl
  have near : ∃ setup, userConfig.tiers.find? "near" = some (.memory setup) := ⟨_, rfl⟩
  have far : ∃ setup, userConfig.tiers.find? "far" = some (.memory setup) := ⟨_, rfl⟩
  have users : UsesMemory userConfig ⟨["near", "far"], ["id"], .plain⟩ :=
    ⟨List.forall_mem_cons.mpr ⟨near, List.forall_mem_cons.mpr ⟨far, List.forall_mem_nil _⟩⟩⟩
  have regions : UsesMemory userConfig ⟨["far"], ["id", "region"], .optional⟩ :=
    ⟨List.forall_mem_cons.mpr ⟨far, List.forall_mem_nil _⟩⟩
  have arity : ∀ other ∈ (⟨(), [.int 7], false, 0⟩ : Use Unit) :: userCalls,
      other.arguments.length = loadUser.arguments.length := by
    simp only [userCalls, List.forall_mem_cons]
    exact ⟨rfl, rfl, rfl, rfl, List.forall_mem_nil _⟩
  refine ⟨?_, ?_⟩
  · intro before called
    obtain ⟨_, quiet, recalls, _⟩ := calls_memoise_exactly userConfig ⟨["near", "far"], ["id"], .plain⟩ loadUser
      Manager.empty userStart userCalls ⟨(), [.int 7], false, 0⟩ accepted rfl users rfl rfl ResultForm.plain_faithful arity
    have second : before.1[1]? = some ⟨[.int 7], .ok (.str "user-7")⟩ := by rfl
    have known : ⟨[.int 7], .ok (.str "user-7")⟩ ∈ before.1 := List.mem_of_getElem? second
    exact ⟨recalls _ known ⟨rfl, rfl⟩, quiet.mpr ⟨_, known, rfl, rfl⟩⟩
  · intro before called
    obtain ⟨once, quiet, _⟩ := calls_memoise_exactly userConfig ⟨["far"], ["id", "region"], .optional⟩ lookupRegion
      Manager.empty userStart [nowhere] nowhere accepted rfl regions rfl rfl ResultForm.optional_faithful
      (by simp [nowhere, lookupRegion])
    refine once.resolve_left fun still => ?_
    obtain ⟨report, member, _, shown⟩ := quiet.mp still
    have only : (lookupRegion.useAll [nowhere] userStart).1 = [⟨nowhere.arguments, .ok none⟩] := by rfl
    rw [only] at member
    rw [List.mem_singleton.mp member] at shown
    cases shown

end Memoised

end CacheTiers
