import CacheTiers.Proofs.Manager.Descriptors

namespace CacheTiers

variable {E : Type}

inductive Start where
  | ofConfig (config : Config)
  | ofFile (content : Except FileFault (List UInt8))

namespace Start

def request : Start → Request E
  | .ofConfig config => .init config
  | .ofFile content => .initFromFile content

def read : Start → Except CacheError Config
  | .ofConfig config => .ok config
  | .ofFile content => Config.ofFile content

theorem run_request (start : Start) (manager : Manager) :
    (start.request : Request E).run manager =
    (.ended (manager.initRead start.read).1, (manager.initRead start.read).2) := by
  cases start with
  | ofConfig config => rfl
  | ofFile content => rfl

end Start

namespace Config

-- A file holds no configuration that is taken: it cannot be read, is no text, is not written as one, or breaks a rule.
inductive FileRefused (content : Except FileFault (List UInt8)) : Prop where
  | unreadable (fault : FileFault) (failed : content = .error fault)
  | notText (bytes : List UInt8) (read : content = .ok bytes) (undecodable : Text.decode? bytes = none)
  | unparsed (bytes : List UInt8) (chars : List Char) (error : CacheError) (read : content = .ok bytes)
    (decoded : Text.decode? bytes = some chars) (failed : parse (String.ofList chars) = .error error)
  | invalid (bytes : List UInt8) (chars : List Char) (config : Config) (violation : Violation) (read : content = .ok bytes)
    (decoded : Text.decode? bytes = some chars) (parsed : parse (String.ofList chars) = .ok config)
    (broken : config.check = .error violation)

end Config

namespace Manager

theorem init_refused (config : Config) (manager : Manager) (error : CacheError)
    (refused : (manager.init config).1 = .error error) :
    (manager.init config).2 = manager ∧ ∃ violation, config.check = .error violation := by
  rw [init] at refused ⊢
  cases checked : config.check with
  | error violation => exact ⟨rfl, violation, rfl⟩
  | ok done =>
      rw [checked] at refused
      cases refused

theorem init_read_refused (read : Except CacheError Config) (manager : Manager) (error : CacheError)
    (refused : (manager.initRead read).1 = .error error) : (manager.initRead read).2 = manager := by
  cases read with
  | error fault => rfl
  | ok config => exact (init_refused config manager error refused).1

theorem init_read_taken (read : Except CacheError Config) (manager : Manager) (taken : (manager.initRead read).1 = .ok ()) :
    ∃ config, read = .ok config ∧ config.check = .ok () ∧ (manager.initRead read).2.registry = .ofConfig config ∧
      (manager.initRead read).2.context.metrics.enabled = config.enableMetrics := by
  cases read with
  | error fault => cases taken
  | ok config =>
      simp only [initRead, init] at taken ⊢
      cases checked : config.check with
      | error violation =>
          rw [checked] at taken
          cases taken
      | ok done => exact ⟨config, rfl, checked, rfl, rfl⟩

theorem init_read_keeps (read : Except CacheError Config) (manager : Manager) :
    let ended := manager.initRead read
    ended.1 = (Manager.empty.initRead read).1 ∧ ended.2.context.world = manager.context.world ∧
      ended.2.context.metrics.counts = manager.context.metrics.counts ∧
      ended.2.context.metrics.totals = manager.context.metrics.totals := by
  cases read with
  | error fault => exact ⟨rfl, rfl, rfl, rfl⟩
  | ok config =>
      simp only [initRead, init]
      cases config.check with
      | error violation => exact ⟨rfl, rfl, rfl, rfl⟩
      | ok done => exact ⟨rfl, rfl, rfl, rfl⟩

theorem file_refused (content : Except FileFault (List UInt8)) (manager : Manager) :
    (∃ error, (manager.initFromFile content).1 = .error error) ↔ Config.FileRefused content := by
  simp only [initFromFile, Config.ofFile, Config.textOf]
  constructor
  · rintro ⟨error, refused⟩
    cases content with
    | error fault => exact .unreadable fault rfl
    | ok bytes =>
        cases decoded : Text.decode? bytes with
        | none => exact .notText bytes rfl decoded
        | some chars =>
            simp only [decoded, bind, Except.bind] at refused
            cases parsed : Config.parse (String.ofList chars) with
            | error failed => exact .unparsed bytes chars failed rfl decoded parsed
            | ok config =>
                rw [parsed] at refused
                obtain ⟨_, violation, broken⟩ := init_refused config manager error refused
                exact .invalid bytes chars config violation rfl decoded parsed broken
  · rintro (⟨fault, rfl⟩ | ⟨bytes, rfl, undecodable⟩ | ⟨bytes, chars, error, rfl, decoded, failed⟩ |
      ⟨bytes, chars, config, violation, rfl, decoded, parsed, broken⟩)
    · exact ⟨_, rfl⟩
    · simp only [undecodable, bind, Except.bind]
      exact ⟨_, rfl⟩
    · simp only [decoded, bind, Except.bind, failed]
      exact ⟨_, rfl⟩
    · simp only [decoded, bind, Except.bind, parsed, initRead, init, broken]
      exact ⟨_, rfl⟩

end Manager

namespace Request

def isRefused (request : Request E) : Bool :=
  match request with
  | .init config => config.accepted?.isNone
  | .initFromFile content => ((Config.ofFile content).toOption.bind Config.accepted?).isNone
  | _ => false

theorem refused_unchanged (request : Request E) (manager : Manager) (refused : request.isRefused = true) :
    (request.run manager).2 = manager := by
  have kept (config : Config) (declined : config.accepted?.isNone = true) : (manager.init config).2 = manager := by
    rw [Config.accepted?] at declined
    rw [Manager.init]
    cases checked : config.check with
    | error violation => rfl
    | ok done =>
        rw [checked] at declined
        cases declined
  cases request with
  | init config => exact kept config refused
  | initFromFile content =>
      rw [isRefused] at refused
      rw [run, Manager.initFromFile]
      cases read : Config.ofFile content with
      | error error => rfl
      | ok config =>
          rw [read] at refused
          exact kept config refused
  | _ => cases refused

-- All starts that are refused can be left out of a history: the others are answered the same, and it ends the same.
theorem refused_starts_leave_no_trace (history : List (Request E)) (manager : Manager) :
    runAll (history.filter fun request => !request.isRefused) manager =
      (((history.zip (runAll history manager).1).filter fun answered => !answered.1.isRefused).map Prod.snd,
        after history manager) := by
  induction history generalizing manager with
  | nil => rfl
  | cons request rest ih =>
      rw [after_cons]
      simp only [runAll, List.zip_cons_cons]
      by_cases refused : request.isRefused = true
      · have unchanged := refused_unchanged request manager refused
        rw [List.filter_cons_of_neg (by simp [refused]), List.filter_cons_of_neg (by simp [refused]), unchanged]
        exact ih manager
      · rw [List.filter_cons_of_pos (by simp [refused]), List.filter_cons_of_pos (by simp [refused])]
        simp only [runAll, ih, List.map_cons]

end Request

namespace Manager

open Request

theorem starts_are_all_or_nothing (context : Context World) (earlier later : List (Request E)) (start : Start) :
    let origin : Manager := ⟨.empty, context⟩
    let manager := after earlier origin
    let ended := (start.request : Request E).run manager
    let fresh := (start.request : Request E).run Manager.empty
    (∀ error, ended.1 = .ended (.error error) →
      ended.2 = manager ∧
      Request.runAll (earlier ++ start.request :: later) origin =
        ((Request.runAll earlier origin).1 ++ .ended (.error error) :: (Request.runAll later manager).1,
          after (earlier ++ later) origin)) ∧
    (ended.1 = .ended (.ok ()) →
      (∃ config, start.read = .ok config ∧ config.check = .ok () ∧ ended.2.registry = .ofConfig config ∧
        ended.2.context.metrics.enabled = config.enableMetrics) ∧
      ended.2.registry = fresh.2.registry ∧ ended.2.context.metrics.enabled = fresh.2.context.metrics.enabled) ∧
    ended.1 = fresh.1 ∧ ended.2.context.world = manager.context.world ∧
    ended.2.context.metrics.counts = manager.context.metrics.counts ∧
    ended.2.context.metrics.totals = manager.context.metrics.totals ∧
    ∀ content, start = .ofFile content →
      ((∃ error, ended.1 = .ended (.error error)) ↔ Config.FileRefused content) := by
  intro origin manager ended fresh
  obtain ⟨verdict, world, counts, totals⟩ := init_read_keeps start.read manager
  have started : ended = _ := start.run_request manager
  have afresh : fresh = _ := start.run_request Manager.empty
  rw [started, afresh]
  refine ⟨?_, ?_, congrArg Response.ended verdict, world, counts, totals, ?_⟩
  · intro error refused
    have unchanged := init_read_refused start.read manager error (Response.ended.inj refused)
    refine ⟨unchanged, ?_⟩
    have goesOn : Request.runAll (start.request :: later) manager =
        (.ended (.error error) :: (Request.runAll later manager).1, after later manager) := by
      rw [Request.runAll, start.run_request]
      dsimp only
      rw [unchanged, Response.ended.inj refused]
      rfl
    rw [run_all_append, after_append]
    exact Prod.ext (congrArg (fun ran => (Request.runAll earlier origin).1 ++ ran.1) goesOn)
      (congrArg (fun ran => ran.2) goesOn)
  · intro accepted
    have taken := Response.ended.inj accepted
    obtain ⟨config, read, sound, registry, enabled⟩ := init_read_taken start.read manager taken
    obtain ⟨other, again, _, anew, enabledAnew⟩ := init_read_taken start.read Manager.empty (verdict ▸ taken)
    obtain rfl := Except.ok.inj (read.symm.trans again)
    exact ⟨⟨config, read, sound, registry, enabled⟩, registry.trans anew.symm, enabled.trans enabledAnew.symm⟩
  · intro content same
    obtain rfl := same
    rw [← file_refused content manager]
    constructor
    · intro failed
      obtain ⟨error, refused⟩ := failed
      exact ⟨error, Response.ended.inj refused⟩
    · intro failed
      obtain ⟨error, refused⟩ := failed
      exact ⟨error, congrArg Response.ended refused⟩

-- The tier that was registered is forgotten by a start that is taken, though the configuration is the same.
theorem only_taken_starts_change_anything :
    after (replacedRequests ++ .initFromFile (.error .notFound) :: lateRequests) Manager.empty =
        after (replacedRequests ++ lateRequests) Manager.empty ∧
      (after replacedRequests Manager.empty).registry.registered.find? replacedStand = some ⟨0, "mine"⟩ ∧
      (((Start.ofConfig replacedConfig).request : Request String).run (after replacedRequests Manager.empty)).2.registry =
        .ofConfig replacedConfig := by
  have halves := starts_are_all_or_nothing Manager.empty.context replacedRequests lateRequests (.ofFile (.error .notFound))
  have unchanged := (halves.1 (.file .notFound) (by rfl)).2
  have taken := starts_are_all_or_nothing Manager.empty.context replacedRequests lateRequests (.ofConfig replacedConfig)
  obtain ⟨⟨config, read, _, registry, _⟩, _⟩ := taken.2.1 (by rfl)
  obtain rfl : replacedConfig = config := Except.ok.inj read
  exact ⟨congrArg (fun ran => ran.2) unchanged, by rfl, registry⟩

end Manager

end CacheTiers
