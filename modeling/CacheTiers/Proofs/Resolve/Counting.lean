import CacheTiers.Proofs.Job.Abides
import CacheTiers.Proofs.Job.Run
import CacheTiers.Proofs.Metrics.Growth
import CacheTiers.Resolve.Suspending

namespace CacheTiers

namespace Context

variable {W A : Type}

theorem on_world_of_eq {action : W → A × W} {context : Context W} {answer : A} {after : W}
    (acted : action context.world = (answer, after)) :
    context.onWorld action = (answer, ⟨after, context.metrics⟩) := by
  simp only [onWorld, acted]

end Context

namespace Resolve

variable {W K V : Type}

theorem settle_world (operation : String) (onSuccess : Event) (onFailure : Option Event)
    (outcomes : List (Tier W K V × Except CacheError Unit)) (context : Context W) :
    (settle operation onSuccess onFailure outcomes context).world = context.world := by
  induction outcomes generalizing context with
  | nil => rfl
  | cons outcome rest ih =>
      obtain ⟨tier, answer⟩ := outcome
      cases answer with
      | ok done => exact ih (context.record operation tier.name onSuccess)
      | error error =>
          cases onFailure with
          | none => exact ih context
          | some event => exact ih (context.record operation tier.name event)

theorem write_all_reaches {rely guar : W → W → Prop} (relies : Composes rely) (composes : Composes guar)
    (yields : ∀ before after, guar before after → rely before after) (operation : String) (onSuccess : Event)
    (onFailure : Option Event) (key : K) (value : V) (tiers : List (Tier W K V)) (context : Context W)
    (each : ∀ tier ∈ tiers, ∀ now, rely context.world now →
      Poll.Abides rely guar (fun _ _ => True) now (tier.putAsync key value now)) :
    Poll.Abides Eq (Reaches fun now => guar context.world now.world) (fun _ now => guar context.world now.world) context
      (writeAll operation onSuccess onFailure key value tiers context) := by
  have lifted := composes_image Context.world composes
  have together : Turns.Abides (InvImage rely Context.world) (InvImage guar Context.world) (fun _ _ => True) context
      (Turns.ofJobs (tiers.map fun tier => (tier.putAsync key value).onWorld) context) := by
    refine Turns.abides_of_jobs (composes_image _ relies) lifted (fun before after step => yields _ _ step) ?_
    intro job member now relied
    obtain ⟨tier, inTiers, rfl⟩ := List.mem_map.mp member
    exact Job.on_world_abides (each tier inTiers now.world relied)
  have alone : Poll.Abides Eq (InvImage guar Context.world) (fun _ _ => True) context
      (Job.all (tiers.map fun tier => (tier.putAsync key value).onWorld) context) := by
    refine Poll.abides_mono (Job.all_abides (composes_image _ relies).refl lifted.trans together) ?_ (fun _ _ step => step)
      (fun _ _ _ => trivial)
    rintro before after rfl
    exact relies.refl before.world
  have reached : Poll.Abides Eq (Reaches fun now => guar context.world now.world)
      (fun _ now => True ∧ guar context.world now.world) context
      (Job.all (tiers.map fun tier => (tier.putAsync key value).onWorld) context) :=
    Poll.abides_reaches alone (fun _ _ step reached => lifted.trans _ _ _ reached step)
      (fun _ _ equal reached => equal ▸ reached) (lifted.refl context)
  apply Poll.abides_bind reaches_trans reached
  rintro answers after ⟨_, reached⟩
  have settled : guar context.world (settle operation onSuccess onFailure (tiers.zip answers) after).world := by
    rw [settle_world]
    exact reached
  exact ⟨settled, settled⟩

theorem dispatch_context (handle current : Bool) (backfill : Backfill W K V) (context : Context W) :
    (dispatch handle current backfill context).2 = if handle || current then context else
      ⟨context.world, context.metrics.recordEach backfill.operation .backfillError (backfill.targets.map Tier.name)⟩ := by
  by_cases runtime : (handle || current) = true
  · rw [dispatch, if_pos runtime, if_pos runtime]
  · rw [dispatch, if_neg runtime, if_neg runtime]
    generalize backfill.targets = targets
    induction targets generalizing context with
    | nil => rfl
    | cons tier targets ih => exact ih (context.record backfill.operation tier.name .backfillError)

theorem dispatch_world (handle current : Bool) (backfill : Backfill W K V) (context : Context W) :
    (dispatch handle current backfill context).2.world = context.world := by
  rw [dispatch_context]
  split <;> rfl

theorem answer_hit_context {R E : Type} (handle current : Bool) (form : ResultForm V R) (backfill : Backfill W K V)
    (context : Context W) :
    (answerHit (E := E) handle current form backfill context).2 = if handle || current then context else
      ⟨context.world, context.metrics.recordEach backfill.operation .backfillError (backfill.targets.map Tier.name)⟩ := by
  by_cases none : backfill.targets.isEmpty = true
  · rw [answerHit, if_pos none, List.isEmpty_iff.mp none]
    split <;> rfl
  · rw [answerHit, if_neg none]
    exact dispatch_context handle current backfill context

theorem answer_hit_world {R E : Type} (handle current : Bool) (form : ResultForm V R) (backfill : Backfill W K V)
    (context : Context W) : (answerHit (E := E) handle current form backfill context).2.world = context.world := by
  rw [answer_hit_context]
  split <;> rfl

theorem dispatch_given (handle current : Bool) (backfill given : Backfill W K V) (context : Context W)
    (dispatched : (dispatch handle current backfill context).1 = some given) : given = backfill := by
  by_cases runtime : (handle || current) = true
  · rw [dispatch, if_pos runtime] at dispatched
    exact (Option.some.inj dispatched).symm
  · rw [dispatch, if_neg runtime] at dispatched
    cases dispatched

theorem settle_dispatched_some (backfill : Backfill W K V) (context : Context W) :
    settleDispatched (some backfill) context =
      ((writeAll backfill.operation .backfill (some .backfillError) backfill.key backfill.value backfill.targets).run
        context).2 := by
  rw [settleDispatched, Backfill.job, Job.run_bind, Job.run_pure]

def written (operation : String) (onSuccess : Event) (onFailure : Option Event) (tier : String) :
    Except CacheError Unit → List Counter
  | .ok _ => [⟨operation, tier, onSuccess⟩]
  | .error _ => onFailure.toList.map fun event => ⟨operation, tier, event⟩

theorem settle_grows (operation : String) (onSuccess : Event) (onFailure : Option Event)
    (outcomes : List (Tier W K V × Except CacheError Unit)) (context : Context W) :
    Metrics.Grows (outcomes.flatMap fun outcome => written operation onSuccess onFailure outcome.1.name outcome.2) []
      context.metrics (settle operation onSuccess onFailure outcomes context).metrics := by
  induction outcomes generalizing context with
  | nil => exact Metrics.grows_refl _
  | cons outcome rest ih =>
      obtain ⟨tier, answer⟩ := outcome
      cases answer with
      | ok done => exact Metrics.grows_trans (Metrics.record_grows _ _) (ih (context.record operation tier.name onSuccess))
      | error error =>
          cases onFailure with
          | none => exact ih context
          | some event => exact Metrics.grows_trans (Metrics.record_grows _ _) (ih (context.record operation tier.name event))

section Asked

variable {R E : Type}

theorem answer_hit_grows (handle current : Bool) (form : ResultForm V R) (backfill : Backfill W K V) (context : Context W) :
    Metrics.Grows (if handle || current then []
      else backfill.targets.map fun tier => ⟨backfill.operation, tier.name, .backfillError⟩) []
      context.metrics (answerHit (E := E) handle current form backfill context).2.metrics := by
  rw [answer_hit_context]
  by_cases runtime : (handle || current) = true
  · rw [if_pos runtime, if_pos runtime]
    exact Metrics.grows_refl _
  · rw [if_neg runtime, if_neg runtime]
    have grows := Metrics.record_each_grows backfill.operation .backfillError (backfill.targets.map Tier.name) context.metrics
    rw [List.map_map] at grows
    exact grows

theorem answer_hit_outcome (handle current : Bool) (form : ResultForm V R) (backfill : Backfill W K V) (context : Context W) :
    (answerHit (E := E) handle current form backfill context).1 =
      ⟨.ok (form.ofValue backfill.value),
        if !backfill.targets.isEmpty && (handle || current) then some backfill else none⟩ := by
  by_cases none : backfill.targets.isEmpty = true
  · rw [answerHit, if_pos none, none]
    rfl
  · rw [answerHit, if_neg none, dispatch]
    by_cases runtime : (handle || current) = true
    · simp [none, runtime]
    · simp [none, runtime]

theorem blocking_through (operation : String) (form : ResultForm V R) (key : K) (tiers : List (Tier W K V))
    (origin : W → Except (Failure E) R × W) (context : Context W) (several : 2 ≤ tiers.length) :
    blocking operation form key tiers origin context = throughTiers operation form key tiers origin context := by
  cases tiers with
  | nil => exact absurd several (Nat.not_succ_le_zero 1)
  | cons tier rest =>
      cases rest with
      | nil => exact absurd several (Nat.lt_irrefl 1)
      | cons next rest => rfl

-- What a tier that asked its origin is told: a value, or absence, also where the origin failed.
def offered (form : ResultForm V R) : Except (Failure E) R → Option V
  | .ok result => form.toValue? result
  | .error _ => none

def afterResume (operation tier : String) (form : ResultForm V R) (given : Except (Failure E) R) :
    Lookup V × Context W → Except (Failure E) R × Context W
  | (.error error, context) => (.error (.cache error), context)
  | (.ok value, context) =>
    match given with
    | .error failure => (.error failure, context)
    | .ok _ => afterConsult operation tier form .store value context

theorem through_one_asked (operation : String) (form : ResultForm V R) (key : K) (tier : Tier W K V)
    (origin : W → Except (Failure E) R × W) (context : Context W) (resume : Lookup V → W → Lookup V × W) (world : W)
    (consulted : tier.computeIfAbsent key context.world = .ask resume world) :
    throughOne operation form key tier origin context =
      afterResume operation tier.name form (origin world).1
        (Context.onWorld (resume (.ok (offered form (origin world).1)))
          ⟨(origin world).2, context.metrics.recordOrigin operation⟩) := by
  rw [throughOne, consulted]
  rcases given : origin world with ⟨outcome, later⟩
  have step : (Context.recordOrigin operation ⟨world, context.metrics⟩).onWorld origin =
      (outcome, ⟨later, context.metrics.recordOrigin operation⟩) := Context.on_world_of_eq given
  simp only [step]
  cases outcome with
  | error failure =>
      simp only [offered]
      rcases Context.onWorld (resume (.ok none)) ⟨later, context.metrics.recordOrigin operation⟩ with ⟨answer, final⟩
      cases answer with
      | error error => rfl
      | ok found => rfl
  | ok result =>
      simp only [offered]
      rcases Context.onWorld (resume (.ok (form.toValue? result))) ⟨later, context.metrics.recordOrigin operation⟩
        with ⟨answer, final⟩
      cases answer with
      | error error => rfl
      | ok found => rfl

theorem after_resume_world (operation tier : String) (form : ResultForm V R) (given : Except (Failure E) R)
    (ended : Lookup V × Context W) : (afterResume operation tier form given ended).2.world = ended.2.world := by
  obtain ⟨answer, context⟩ := ended
  cases answer with
  | error error => rfl
  | ok value =>
      cases given with
      | error failure => rfl
      | ok result =>
          cases value with
          | none => rfl
          | some value => rfl

def handOn (operation : String) (form : ResultForm V R) (key : K) (tiers : List (Tier W K V)) :
    Except (Failure E) R → Job (Context W) (Outcome W K V R E)
  | .error failure => return .only (.error failure)
  | .ok result =>
    match form.toValue? result with
    | none => return .only (absentResult form operation)
    | some value => do
      let written ← writeAll operation .store none key value tiers
      match firstError? written with
      | some error => return .only (.error (.cache error))
      | none => return .only (.ok (form.ofValue value))

end Asked

end Resolve

end CacheTiers
