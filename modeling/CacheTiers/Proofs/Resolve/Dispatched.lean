import CacheTiers.Proofs.Job.Noted
import CacheTiers.Proofs.Resolve.Counting
import CacheTiers.Proofs.Resolve.InStep
import CacheTiers.World.Basic
import Mathlib.Algebra.BigOperators.Group.List.Lemmas
import Mathlib.Algebra.GroupWithZero.Nat

namespace CacheTiers

variable {W Q A B K V : Type}

inductive Tier.Query (K V : Type) where
  | get (key : K)
  | put (key : K) (value : V)
  | compute (key : K)
  | getAsync (key : K)
  | putAsync (key : K) (value : V)
deriving DecidableEq, Repr

def Noted.act (note : Note Q A) (action : W → B × W) (noted : Noted W Q A) : B × Noted W Q A :=
  let (answer, world) := action noted.world
  (answer, ⟨world, noted.notes ++ [note]⟩)

def Consult.carries : Consult W V → List (Note Q A) → Consult (Noted W Q A) V
  | .answer outcome world, notes => .answer outcome ⟨world, notes⟩
  | .ask resume world, notes =>
    .ask (fun told noted => ((resume told noted.world).1, { noted with world := (resume told noted.world).2 })) ⟨world, notes⟩

def Poll.carries : Poll W B → List (Note Q A) → Poll (Noted W Q A) B
  | .ready answer world, notes => .ready answer ⟨world, notes⟩
  | .pending rest world, notes => .pending (fun later => (rest later.world).carries later.notes) ⟨world, notes⟩

-- Whatever is asked of the tier is noted; suspending writes are followed up to their end.
def Tier.noted (place : Nat) (tier : Tier W K V) : Tier (Noted W (Query K V) (Except CacheError Unit)) K V where
  name := tier.name
  get := fun key => Noted.act (.issued place (.get key)) (tier.get key)
  put := fun key value => Noted.act (.issued place (.put key value)) (tier.put key value)
  computeIfAbsent := fun key noted =>
    (tier.computeIfAbsent key noted.world).carries (noted.notes ++ [.issued place (.compute key)])
  getAsync := fun key noted => (tier.getAsync key noted.world).carries (noted.notes ++ [.issued place (.getAsync key)])
  putAsync := fun key value => (tier.putAsync key value).noted place (.putAsync key value)

theorem Poll.carries_erases (poll : Poll W B) (notes : List (Note Q A)) :
    (poll.carries notes).InStep Noted.Erases Eq poll := by
  induction poll generalizing notes with
  | ready answer world => exact ⟨rfl, rfl⟩
  | pending rest world ih =>
      refine ⟨rfl, ?_⟩
      rintro later world rfl
      exact ih later.world later.notes

theorem Noted.act_erases (note : Note Q A) (action : W → B × W) (noted : Noted W Q A) (world : W)
    (same : noted.Erases world) : Alike Noted.Erases Eq (noted.act note action) (action world) := by
  obtain rfl := same
  exact ⟨rfl, rfl⟩

theorem Tier.noted_erases (place : Nat) (tier : Tier W K V) : (tier.noted place).InStep Noted.Erases tier where
  get := fun key => Noted.act_erases (.issued place (.get key)) (tier.get key)
  put := fun key value => Noted.act_erases (.issued place (.put key value)) (tier.put key value)
  compute := by
    rintro key noted world rfl
    simp only [Tier.noted]
    cases tier.computeIfAbsent key noted.world with
    | answer outcome world => exact ⟨rfl, rfl⟩
    | ask resume world =>
        refine ⟨rfl, ?_⟩
        rintro told later world rfl
        exact ⟨rfl, rfl⟩
  getAsync := by
    rintro key noted world rfl
    exact Poll.carries_erases _ _
  putAsync := fun key value => Job.noted_erases place (Tier.Query.putAsync key value) (tier.putAsync key value)

namespace Resolve

def notedFrom (place : Nat) : List (Tier W K V) → List (Tier (Noted W (Tier.Query K V) (Except CacheError Unit)) K V)
  | [] => []
  | tier :: rest => tier.noted place :: notedFrom (place + 1) rest

theorem noted_from_erases (place : Nat) (tiers : List (Tier W K V)) :
    Twins Noted.Erases Eq (notedFrom place tiers) tiers := by
  induction tiers generalizing place with
  | nil => exact .nil
  | cons tier rest ih => exact .cons ⟨tier.noted_erases place, rfl⟩ (ih (place + 1))

theorem noted_from_names (place : Nat) (tiers : List (Tier W K V)) :
    (notedFrom place tiers).map Tier.name = tiers.map Tier.name := by
  induction tiers generalizing place with
  | nil => rfl
  | cons tier rest ih => rw [notedFrom, List.map_cons, List.map_cons, ih, Tier.noted]

theorem noted_from_puts (key : K) (value : V) (place : Nat) (tiers : List (Tier W K V)) :
    (notedFrom place tiers).map (fun tier => tier.putAsync key value) =
      Job.notedFrom (.putAsync key value) place (tiers.map fun tier => tier.putAsync key value) := by
  induction tiers generalizing place with
  | nil => rfl
  | cons tier rest ih => rw [notedFrom, List.map_cons, List.map_cons, ih, Job.notedFrom, Tier.noted]

end Resolve

theorem Job.run_all_on_world (jobs : List (Job W A)) (context : Context W) :
    (Job.all (jobs.map Job.onWorld)).run context =
      (((Job.all jobs).run context.world).1, ⟨((Job.all jobs).run context.world).2, context.metrics⟩) := by
  let rel (now : Context W) (world : W) : Prop := now = ⟨world, context.metrics⟩
  have besides (poll : Poll W A) : (poll.besides context.metrics).InStep rel Eq poll := by
    induction poll with
    | ready answer world => exact ⟨rfl, rfl⟩
    | pending rest world ih =>
        refine ⟨rfl, ?_⟩
        rintro _ world rfl
        exact ih world
  have each : List.Forall₂ (Job.InStep rel Eq) (jobs.map Job.onWorld) jobs := by
    refine List.forall₂_map_left_iff.mpr (List.forall₂_same.mpr ?_)
    rintro job _ _ world rfl
    exact besides (job world)
  have alike := Job.run_in_step _ _ context context.world (Job.all_in_step _ _ each) rfl
  exact Prod.ext alike.1 alike.2

namespace Resolve

theorem write_all_run (operation : String) (onSuccess : Event) (onFailure : Option Event) (key : K) (value : V)
    (tiers : List (Tier W K V)) (context : Context W) :
    let written := (Job.all (tiers.map fun tier => tier.putAsync key value)).run context.world
    (writeAll operation onSuccess onFailure key value tiers).run context =
      (written.1, settle operation onSuccess onFailure (tiers.zip written.1) ⟨written.2, context.metrics⟩) := by
  have lifted : tiers.map (fun tier => (tier.putAsync key value).onWorld) =
      (tiers.map fun tier => tier.putAsync key value).map Job.onWorld := by
    rw [List.map_map]
    rfl
  rw [writeAll, Job.run_bind, Job.run_bind, Job.run_modify, Job.run_pure, lifted, Job.run_all_on_world]

theorem write_all_noted (operation : String) (onSuccess : Event) (onFailure : Option Event) (key : K) (value : V)
    (tiers : List (Tier W K V)) (context : Context (Noted W (Tier.Query K V) (Except CacheError Unit))) :
    let ran := (writeAll operation onSuccess onFailure key value (notedFrom 0 tiers)).run context
    ran.1.length = tiers.length ∧
      (∃ notes, ran.2.world.notes = context.world.notes ++ notes ∧ Note.Together (.putAsync key value) ran.1 notes) ∧
      Metrics.Grows (((tiers.map Tier.name).zip ran.1).flatMap fun outcome =>
        written operation onSuccess onFailure outcome.1 outcome.2) [] context.metrics ran.2.metrics := by
  have together := Job.run_all_noted (Tier.Query.putAsync key value) (tiers.map fun tier => tier.putAsync key value)
    context.world
  rw [← noted_from_puts, List.length_map] at together
  rw [write_all_run]
  generalize (Job.all ((notedFrom 0 tiers).map fun tier => tier.putAsync key value)).run context.world = ran at together
  obtain ⟨answers, after⟩ := ran
  obtain ⟨count, notes, longer, once⟩ := together
  refine ⟨count, ⟨notes, by rw [settle_world, longer], once⟩, ?_⟩
  rw [← noted_from_names 0 tiers, List.zip_map_left, List.flatMap_map]
  exact settle_grows operation onSuccess onFailure ((notedFrom 0 tiers).zip answers) ⟨after, context.metrics⟩

namespace Backfill

def noted (backfill : Backfill W K V) : Backfill (Noted W (Tier.Query K V) (Except CacheError Unit)) K V :=
  ⟨backfill.operation, notedFrom 0 backfill.targets, backfill.key, backfill.value⟩

def event : Except CacheError Unit → Event
  | .ok _ => .backfill
  | .error _ => .backfillError

def events (operation : String) (names : List String) (answers : List (Except CacheError Unit)) : List Counter :=
  (names.zip answers).map fun outcome => ⟨operation, outcome.1, event outcome.2⟩

theorem events_written (operation : String) (names : List String) (answers : List (Except CacheError Unit)) :
    (names.zip answers).flatMap (fun outcome => written operation .backfill (some .backfillError) outcome.1 outcome.2) =
      events operation names answers := by
  have single (name : String) (answer : Except CacheError Unit) :
      written operation .backfill (some .backfillError) name answer = [⟨operation, name, event answer⟩] := by
    cases answer with
    | ok done => rfl
    | error error => rfl
  simp only [single, events, List.map_eq_flatMap]

theorem events_of_name (operation name : String) (names : List String) (answers : List (Except CacheError Unit))
    (all : answers.length = names.length) :
    (events operation names answers).count ⟨operation, name, .backfill⟩ +
      (events operation names answers).count ⟨operation, name, .backfillError⟩ = names.count name := by
  induction names generalizing answers with
  | nil => rfl
  | cons first rest ih =>
      cases answers with
      | nil => cases all
      | cons answer answers =>
          have others := ih answers (Nat.succ.inj all)
          simp only [events, List.zip_cons_cons, List.map_cons, List.count_cons] at others ⊢
          by_cases same : first = name
          · cases answer with
            | ok done =>
                simp [event, same] at others ⊢
                omega
            | error error =>
                simp [event, same] at others ⊢
                omega
          · simp [same] at others ⊢
            omega

end Backfill

def grown (operation : String) (names : List String) (before after : Metrics) : Nat :=
  (names.dedup.map fun name =>
    (after.count ⟨operation, name, .backfill⟩ - before.count ⟨operation, name, .backfill⟩) +
      (after.count ⟨operation, name, .backfillError⟩ - before.count ⟨operation, name, .backfillError⟩)).sum

theorem grown_by (operation : String) (names : List String) (answers : List (Except CacheError Unit)) (before after : Metrics)
    (all : answers.length = names.length)
    (counts : ∀ counter, after.count counter = before.count counter +
      (Backfill.events operation names answers).count counter) : grown operation names before after = names.length := by
  have each (name : String) :
      (after.count ⟨operation, name, .backfill⟩ - before.count ⟨operation, name, .backfill⟩) +
        (after.count ⟨operation, name, .backfillError⟩ - before.count ⟨operation, name, .backfillError⟩) =
          names.count name := by
    rw [counts, counts, Nat.add_sub_cancel_left, Nat.add_sub_cancel_left]
    exact Backfill.events_of_name operation name names answers all
  simp only [grown, each]
  exact List.sum_map_count_dedup_eq_length names

def unnoted (context : Context (Noted W Q A)) : Context W := ⟨context.world.world, context.metrics⟩

variable (handle current : Bool) (backfill : Backfill W K V)

theorem dispatch_unnoted (context : Context (Noted W (Tier.Query K V) (Except CacheError Unit))) :
    unnoted (dispatch handle current backfill.noted context).2 =
      (dispatch handle current backfill (unnoted context)).2 := by
  have matched := dispatch_matched Metrics.same_tallies handle current backfill.operation backfill.key backfill.value _ _
    context (unnoted context) (noted_from_erases 0 backfill.targets) ⟨rfl, rfl⟩
  exact congrArg₂ Context.mk matched.1 matched.2

theorem settle_unnoted (context : Context (Noted W (Tier.Query K V) (Except CacheError Unit))) :
    unnoted (settleDispatched (some backfill.noted) context) = settleDispatched (some backfill) (unnoted context) := by
  have together := write_all_in_step Metrics.same_tallies backfill.operation .backfill (some .backfillError) backfill.key
    backfill.value _ _ (noted_from_erases 0 backfill.targets)
  have ended := (Job.run_in_step _ _ context (unnoted context) together ⟨rfl, rfl⟩).2
  rw [settle_dispatched_some, settle_dispatched_some]
  exact congrArg₂ Context.mk ended.1 ended.2

theorem dispatched_backfill_reaches_every_target
    (context later : Context (Noted W (Tier.Query K V) (Except CacheError Unit)))
    (enabled : context.metrics.enabled = true) (still : later.metrics.enabled = true) :
    let names := backfill.targets.map Tier.name
    let spawned := dispatch handle current backfill.noted context
    unnoted spawned.2 = (dispatch handle current backfill (unnoted context)).2 ∧
      (handle = false ∧ current = false →
        spawned.1 = none ∧ spawned.2.world = context.world ∧
          ∀ counter, spawned.2.metrics.count counter = context.metrics.count counter +
            (names.map fun name => (⟨backfill.operation, name, .backfillError⟩ : Counter)).count counter) ∧
      (handle = true ∨ current = true →
        spawned = (some backfill.noted, context) ∧
          let ended := settleDispatched spawned.1 later
          unnoted ended =
              settleDispatched (dispatch handle current backfill (unnoted context)).1 (unnoted later) ∧
            ∃ answers notes, answers.length = names.length ∧ ended.world.notes = later.world.notes ++ notes ∧
              Note.Together (.putAsync backfill.key backfill.value) answers notes ∧
              (∀ counter, ended.metrics.count counter = later.metrics.count counter +
                (Backfill.events backfill.operation names answers).count counter) ∧
              grown backfill.operation names later.metrics ended.metrics = names.length) := by
  intro names spawned
  refine ⟨dispatch_unnoted handle current backfill context, ?_, ?_⟩
  · rintro ⟨rfl, rfl⟩
    have counted : spawned.2 = _ := dispatch_context false false backfill.noted context
    rw [Bool.or_false, if_neg Bool.false_ne_true] at counted
    have recorded : (notedFrom 0 backfill.targets).map Tier.name = names := noted_from_names 0 backfill.targets
    have grows := Metrics.record_each_grows backfill.operation .backfillError names context.metrics
    refine ⟨rfl, by rw [counted], fun counter => ?_⟩
    have counts := grows.counts counter
    rw [if_pos enabled] at counts
    rw [counted]
    simpa only [Backfill.noted, recorded] using counts
  · intro runtime
    have given : (handle || current) = true := by simpa using runtime
    have begun : spawned = (some backfill.noted, context) := if_pos given
    have plain : dispatch handle current backfill (unnoted context) = (some backfill, unnoted context) := if_pos given
    refine ⟨begun, ?_⟩
    rw [begun, plain]
    refine ⟨settle_unnoted backfill later, ?_⟩
    obtain ⟨count, ⟨notes, longer, together⟩, grows⟩ := write_all_noted backfill.operation .backfill (some .backfillError)
      backfill.key backfill.value backfill.targets later
    rw [settle_dispatched_some]
    rw [Backfill.events_written] at grows
    have counts := fun counter => (grows.counts counter).trans (congrArg _ (if_pos still))
    refine ⟨_, notes, by rw [count, List.length_map], longer, together, counts, ?_⟩
    exact grown_by backfill.operation names _ _ _ (by rw [count, List.length_map]) counts

def namesakes : Backfill World Json Json :=
  ⟨"load", [World.tier ⟨0, "near"⟩, World.tier ⟨1, "far"⟩, World.tier ⟨2, "far"⟩], .int 1, .int 5⟩

def namesakeStart : Context (Noted World (Tier.Query Json Json) (Except CacheError Unit)) :=
  ⟨⟨⟨[⟨.scripted ⟨"near", .empty, none, none, 0, 2, .usual⟩, true⟩,
    ⟨.scripted ⟨"far", .empty, none, some ⟨.tier "far" "full", none⟩, 0, 0, .usual⟩, true⟩,
    ⟨.scripted ⟨"far", .empty, none, none, 0, 1, .usual⟩, true⟩], .empty, []⟩, []⟩, .empty⟩

theorem namesakes_are_told_apart :
    let ended := settleDispatched (dispatch false true namesakes.noted namesakeStart).1 namesakeStart
    let put : Tier.Query Json Json := .putAsync (.int 1) (.int 5)
    ended.world.notes = [.issued 0 put, .issued 1 put, .ended 1 (.error (.tier "far" "full")), .issued 2 put, .resumed 0,
        .resumed 2, .ended 2 (.ok ()), .resumed 0, .ended 0 (.ok ())] ∧
      grown "load" ["near", "far", "far"] namesakeStart.metrics ended.metrics = 3 ∧
      ended.metrics.count ⟨"load", "far", .backfillError⟩ = 1 := by
  intro ended put
  obtain ⟨_, _, _, _, _, _, _, _, three⟩ :=
    (dispatched_backfill_reaches_every_target false true namesakes namesakeStart namesakeStart rfl rfl).2.2 (.inr rfl)
  exact ⟨by rfl, three, by rfl⟩

end Resolve

end CacheTiers
