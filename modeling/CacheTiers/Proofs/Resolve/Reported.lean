import CacheTiers.Proofs.Resolve.Counted
import CacheTiers.Proofs.Resolve.Lone
import CacheTiers.Proofs.Resolve.Storing
import CacheTiers.Proofs.World.Holdings

namespace CacheTiers

variable {W K V R E A : Type}

-- It does not answer absence by itself, and once it has asked it answers absence where it is told so, and only there.
def Consult.Honest : Consult W V → Prop
  | .answer outcome _ => outcome ≠ .ok none
  | .ask resume _ => ∀ later, (resume (.ok none) later).1 = .ok none ∧ ∀ value, (resume (.ok (some value)) later).1 ≠ .ok none

theorem Tier.usual_honest (get : K → W → Lookup V × W) (put : K → V → W → Except CacheError Unit × W) (key : K) (world : W) :
    (Tier.getThenPut get put key world).Honest := by
  rw [Tier.getThenPut]
  rcases get key world with ⟨answer, after⟩
  cases answer with
  | error error => exact fun same => by cases same
  | ok found =>
      cases found with
      | some value => exact fun same => by cases same
      | none =>
          refine fun later => ⟨rfl, ?_⟩
          intro value absent
          rcases wrote : put key value later with ⟨written, final⟩
          rw [Tier.keep, wrote] at absent
          cases written with
          | error error => cases absent
          | ok done => cases absent

namespace Resolve

inductive Reported (trail : List (Act V (Except (Failure E) R))) : Failure E → Prop where
  | read (place : Nat) (error : CacheError) (shown : .read place (.error error) ∈ trail) : Reported trail (.cache error)
  | wrote (place : Nat) (error : CacheError) (shown : .wrote place (.error error) ∈ trail) : Reported trail (.cache error)
  | gave (failure : Failure E) (shown : .gave (.error failure) ∈ trail) : Reported trail failure

def Explained (result : Except (Failure E) R) (trail : List (Act V (Except (Failure E) R))) : Prop :=
  ∀ failure, result = .error failure → Reported trail failure

theorem explained_ok (result : R) (trail : List (Act V (Except (Failure E) R))) : Explained (.ok result) trail :=
  fun _ same => by cases same

theorem explained_error {failure : Failure E} {trail : List (Act V (Except (Failure E) R))} (reported : Reported trail failure) :
    Explained (.error failure) trail := by
  intro other same
  cases same
  exact reported

theorem fill_explained (operation : String) (event : Event) (form : ResultForm V R) (key : K) (value : V) (place : Nat)
    (tiers : List (Tier W K V)) (context : Context (Watched W V (Except (Failure E) R))) :
    let ended := afterFill (E := E) form value (fill operation event key value (watchedFrom place tiers) context)
    Explained ended.1 ended.2.world.trail := by
  induction tiers generalizing place context with
  | nil => exact explained_ok _ _
  | cons tier rest ih =>
      have put : context.onWorld ((tier.watched place).put key value) = _ :=
        Watched.on_world_act (.writes place value) (.wrote place) (tier.put key value) context
      rw [watchedFrom, fill, put]
      rcases tier.put key value context.world.world with ⟨answer, after⟩
      cases answer with
      | error error => exact explained_error (.wrote place error (by simp [afterFill]))
      | ok done => exact ih (place + 1) _

theorem through_tiers_explained (operation : String) (key : K) (tiers : List (Tier W K V))
    (origin : W → Except (Failure E) V × W) (world : W) (metrics : Metrics) :
    let ended := throughTiers operation ResultForm.plain key (watchedFrom 0 tiers) (Watched.act .asks .gave origin)
      ⟨⟨world, []⟩, metrics⟩
    Explained ended.1 ended.2.world.trail := by
  obtain ⟨found, now, counted, searched, ended⟩ := search_begun (A := Except (Failure E) V) Holdings.blank operation key tiers
    world metrics (fun _ _ _ => Holdings.blank_still _ _) (Holdings.blank_unmoved world world)
  rw [throughTiers, searched]
  cases ended with
  | failed place error after within still => exact explained_error (.read place error (by simp))
  | hit place value after within still => exact fill_explained operation .backfill ResultForm.plain key value 0 _ _
  | missed after still =>
      dsimp only
      rw [Context.recordOrigin, Watched.on_world_act]
      generalize origin after = answered
      obtain ⟨given, later⟩ := answered
      cases given with
      | error failure => exact explained_error (.gave failure (by simp))
      | ok result => exact fill_explained operation .store ResultForm.plain key result 0 tiers _

theorem hand_on_explained (operation : String) (key : K) (tiers : List (Tier W K V)) (given : Except (Failure E) V)
    (context : Context (Watched W V (Except (Failure E) V))) (shown : .gave given ∈ context.world.trail) :
    let ended := (handOn operation ResultForm.plain key (watchedFrom 0 tiers) given).run context
    Explained ended.1.result ended.2.world.trail ∧ ended.1.dispatched = none := by
  cases given with
  | error failure => exact ⟨explained_error (.gave failure shown), rfl⟩
  | ok result =>
      obtain ⟨answers, more, after, all, longer, perm, still, ran⟩ := write_all_outcomes operation .store none key result tiers
        context
      rw [hand_on_value operation ResultForm.plain key _ result result context rfl, ran]
      refine ⟨?_, rfl⟩
      intro failure failed
      rcases after_writes_result ResultForm.plain result answers with ⟨_, done⟩ | ⟨place, error, first, done⟩
      · cases done.symm.trans failed
      · cases done.symm.trans failed
        refine .wrote place error ?_
        rw [settle_world, longer]
        exact List.mem_append_right _ ((mem_written perm _).mpr ⟨place, .error error, first.1, .inr rfl⟩)

theorem suspending_explained (operation : String) (key : K) (tiers : List (Tier W K V)) (handle current : Bool)
    (origin : Job W (Except (Failure E) V)) (world : W) (metrics : Metrics) (inhabited : tiers ≠ []) :
    let ended := (suspending operation ResultForm.plain key (watchedFrom 0 tiers) handle current
      (origin.watched .asks .gave)).run ⟨⟨world, []⟩, metrics⟩
    Explained ended.1.result ended.2.world.trail ∧ ∀ failure, ended.1.result = .error failure → ended.1.dispatched = none := by
  obtain ⟨found, now, counted, searched, ended⟩ := search_async_begun (A := Except (Failure E) V) Holdings.blank operation key
    tiers world metrics (fun _ _ _ _ => Holdings.blank_abides _ _) (Holdings.blank_unmoved world world)
  rw [suspending, watched_from_inhabited 0 inhabited, if_neg Bool.false_ne_true, Job.run_bind, searched]
  cases ended with
  | failed place error after within still =>
      exact ⟨explained_error (.read place error (by simp [Job.run_pure])), fun _ _ => rfl⟩
  | hit place value after within still =>
      dsimp only
      rw [Job.run_act, answer_hit_outcome]
      exact ⟨explained_ok _ _, fun failure failed => by cases failed⟩
  | missed after still =>
      obtain ⟨explained, idle⟩ := hand_on_explained operation key tiers (origin.run after).1
        ⟨⟨(origin.run after).2, Act.absences tiers.length ++ [Act.asks, .gave (origin.run after).1]⟩,
          counted.recordOrigin operation⟩ (by simp)
      have asked := Job.run_watched (A := Except (Failure E) V) (V := V) .asks .gave origin ⟨after, Act.absences tiers.length⟩
      simp only [Job.run_bind, Job.run_modify, Job.run_on_world, Context.recordOrigin, asked]
      exact ⟨explained, fun _ _ => idle⟩

theorem lone_explained (operation : String) (key : K) (tier : Tier W K V) (origin : W → Except (Failure E) V × W) (world : W)
    (metrics : Metrics) (honest : (tier.computeIfAbsent key world).Honest) :
    let ended := throughOne operation ResultForm.plain key (tier.watched 0) (Watched.act .asks .gave origin)
      ⟨⟨world, []⟩, metrics⟩
    Explained ended.1 ended.2.world.trail := by
  intro ended
  obtain ⟨result, shown⟩ := through_one_result operation ResultForm.plain key (tier.watched 0)
    (Watched.act .asks .gave origin : Watched W V (Except (Failure E) V) → _) ⟨⟨world, []⟩, metrics⟩
  change ended.1 = _ at result
  change ended.2.world = _ at shown
  rw [result, shown]
  simp only [Tier.watched]
  cases began : tier.computeIfAbsent key world with
  | answer outcome after =>
      rw [began] at honest
      simp only [Consult.watched, Consult.run, Consult.gave?]
      cases outcome with
      | error error => exact explained_error (.read 0 error (by simp))
      | ok found =>
          cases found with
          | none => exact absurd rfl honest
          | some value => exact explained_ok _ _
  | ask resume after =>
      rw [began] at honest
      simp only [Consult.watched, Consult.run, Consult.gave?, consulted, Watched.act]
      rcases origin after with ⟨given, later⟩
      cases given with
      | error failure =>
          have told := (honest later).1
          simp only [offered, Watched.resumed, told, loneResult]
          exact explained_error (.gave failure (by simp))
      | ok value =>
          have told := (honest later).2 value
          rcases answered : resume (.ok (some value)) later with ⟨answer, final⟩
          rw [answered] at told
          simp only [offered, ResultForm.plain, Watched.resumed, Watched.act, answered]
          cases answer with
          | error error => exact explained_error (.wrote 0 error (by simp [Except.map]))
          | ok found =>
              cases found with
              | none => exact absurd rfl told
              | some kept => exact explained_ok _ _

theorem blocking_explained (operation : String) (key : K) (tiers : List (Tier W K V)) (origin : W → Except (Failure E) V × W)
    (world : W) (metrics : Metrics) (inhabited : tiers ≠ [])
    (honest : ∀ tier, tiers = [tier] → (tier.computeIfAbsent key world).Honest) :
    let ended := blocking operation ResultForm.plain key (watchedFrom 0 tiers) (Watched.act .asks .gave origin)
      ⟨⟨world, []⟩, metrics⟩
    Explained ended.1 ended.2.world.trail := by
  match tiers with
  | [] => exact absurd rfl inhabited
  | [tier] => exact lone_explained operation key tier origin world metrics (honest tier rfl)
  | first :: second :: rest => exact through_tiers_explained operation key (first :: second :: rest) origin world metrics

end Resolve

namespace Call

def AsksLone (tier : Tier W K V) (operation : Operation (Tier W K V)) : Call W K R E → Prop
  | blocking _ _ _ => operation.tiers = [tier]
  | suspending _ _ _ _ _ => False

theorem run_ending_explained (ends : Metrics → Metrics) (operation : Operation (Tier W K V)) (call : Call W K V E)
    (context : Context W) (inhabited : operation.tiers ≠ [])
    (honest : ∀ tier, call.AsksLone tier operation → (tier.computeIfAbsent call.key context.world).Honest) :
    let ran := call.watched.runEnding ends operation.watched ResultForm.plain ⟨⟨context.world, []⟩, context.metrics⟩
    ∀ result, ran.1 = some result → Resolve.Explained result ran.2.world.trail := by
  intro ran result ended
  cases call with
  | blocking key origin elapsed =>
      cases ended
      exact Resolve.blocking_explained operation.name key operation.tiers origin context.world context.metrics inhabited honest
  | suspending key current origin elapsed polls =>
      obtain ⟨explained, idle⟩ := Resolve.suspending_explained operation.name key operation.tiers operation.backfillRuntime
        current origin context.world context.metrics inhabited
      have notDropped : ran.1 ≠ none := by
        rw [ended]
        exact Option.some_ne_none result
      obtain ⟨outcome, after, whole, settled⟩ := run_ending_reached ends operation ResultForm.plain key current origin elapsed
        polls _ notDropped
      rw [whole] at explained idle
      simp only [ran, settled] at ended ⊢
      cases ended
      intro failure failed
      rw [settleEnded, idle failure failed, Resolve.settleDispatched]
      exact explained failure failed

end Call

namespace Resolve

-- The errors of a call over one tier, by what the tier answered and by what the origin gave where it was asked. The first two
-- are handed on; the third is the call's own.
def LoneError (operation : String) (answered : Lookup V) (given : Option (Except (Failure E) R)) (failure : Failure E) : Prop :=
  (∃ error, answered = .error error ∧ failure = .cache error) ∨
  ((∃ found, answered = .ok found) ∧ given = some (.error failure)) ∨
  (answered = .ok none ∧ (∀ other, given ≠ some (.error other)) ∧ failure = .cache (.absentValue operation))

theorem lone_error (operation : String) (key : K) (tier : Tier W K V) (origin : W → Except (Failure E) V × W)
    (context : Context W) (failure : Failure E) :
    let consult := tier.computeIfAbsent key context.world
    let answered := (consult.run (consulted ResultForm.plain origin)).1
    (blocking operation ResultForm.plain key [tier] origin context).1 = .error failure ↔
      LoneError operation answered (consult.gave? origin) failure := by
  intro consult answered
  have result : (blocking operation ResultForm.plain key [tier] origin context).1 =
      loneResult operation ResultForm.plain answered (consult.gave? origin) :=
    (through_one_result operation ResultForm.plain key tier origin context).1
  rw [result]
  generalize consult.gave? origin = given
  cases answered with
  | error error => simp [LoneError, loneResult, eq_comm]
  | ok found =>
      rcases given with _ | failed | value
      · cases found with
        | none => simp [LoneError, loneResult, absentResult, ResultForm.plain, eq_comm]
        | some value => simp [LoneError, loneResult]
      · cases found <;> simp [LoneError, loneResult, eq_comm]
      · cases found with
        | none => simp [LoneError, loneResult, absentResult, ResultForm.plain, eq_comm]
        | some value => simp [LoneError, loneResult]

end Resolve

theorem World.memory_honest (ref : TierRef) (key : Json) (world : World) (memory : Memory Json Json)
    (read : world.state? ref.index = some (.memory memory)) : (World.compute ref key world).Honest := by
  simp only [compute, read]
  cases memory.find? key with
  | some value => exact fun same => by cases same
  | none =>
      refine fun later => ⟨enter_answer ref.index key (.ok none) later, ?_⟩
      intro value absent
      cases (enter_answer ref.index key (.ok (some value)) later).symm.trans absent

theorem absent_value_arises_from_lone_tiers :
    (∀ (operation : Operation (Tier W K V)) (call : Call W K V E) (context : Context W), operation.tiers ≠ [] →
      (∀ tier, call.AsksLone tier operation → (tier.computeIfAbsent call.key context.world).Honest) →
      let watched := call.watched.run operation.watched ResultForm.plain ⟨⟨context.world, []⟩, context.metrics⟩
      let plain := call.run operation ResultForm.plain context
      (watched.1 = plain.1 ∧ watched.2.world.world = plain.2.world) ∧
        ∀ failure, plain.1 = some (.error failure) → Resolve.Reported watched.2.world.trail failure) ∧
    (∀ (tier : Tier W K V) (key : K) (world : W),
      tier.computeIfAbsent key world = Tier.getThenPut tier.get tier.put key world →
      (tier.computeIfAbsent key world).Honest) ∧
    (∀ (ref : TierRef) (key : Json) (world : World) (memory : Memory Json Json),
      world.state? ref.index = some (.memory memory) → ((World.tier ref).computeIfAbsent key world).Honest) ∧
    ∀ (operation : String) (key : K) (tier : Tier W K V) (origin : W → Except (Failure E) V × W) (context : Context W)
      (failure : Failure E),
      let consult := tier.computeIfAbsent key context.world
      let answered := (consult.run (Resolve.consulted ResultForm.plain origin)).1
      (Resolve.blocking operation ResultForm.plain key [tier] origin context).1 = .error failure ↔
        Resolve.LoneError operation answered (consult.gave? origin) failure := by
  refine ⟨?_, ?_, World.memory_honest, Resolve.lone_error⟩
  · intro operation call context inhabited honest watched plain
    have erased : watched.1 = plain.1 ∧ watched.2.world.world = plain.2.world :=
      Call.run_watched operation ResultForm.plain call context []
    refine ⟨erased, ?_⟩
    intro failure failed
    have timed : watched = call.watched.runEnding (call.watched.times operation.name) operation.watched ResultForm.plain _ :=
      Call.run_eq_ending operation.watched ResultForm.plain call.watched _
    have ended : watched.1 = some (.error failure) := erased.1.trans failed
    rw [timed] at ended ⊢
    exact Call.run_ending_explained _ operation call context inhabited honest _ ended failure rfl
  · intro tier key world usual
    rw [usual]
    exact Tier.usual_honest tier.get tier.put key world

def loneSkipping : Context World :=
  ⟨⟨[⟨.scripted ⟨"near", .empty, none, none, 0, 0, .skip⟩, true⟩], .empty, []⟩, .empty⟩

theorem full_tier_is_reported :
    let full := Resolve.loneFull
    let ran := Call.loneCall.watched.run Call.loneOperation.watched ResultForm.plain ⟨⟨full.world, []⟩, full.metrics⟩
    let skipped := Resolve.blocking "load" ResultForm.plain (.int 1) [World.tier ⟨0, "near"⟩]
      (Session.originAction (.ok (.int 7) : Except (Failure String) Json)) loneSkipping
    Resolve.Reported ran.2.world.trail (.cache (.tier "near" "full")) ∧ skipped.1 = .error (.cache (.absentValue "load")) := by
  intro full ran skipped
  obtain ⟨calls, usual, _, lone⟩ := absent_value_arises_from_lone_tiers (W := World) (K := Json) (V := Json) (E := String)
  constructor
  · refine (calls Call.loneOperation Call.loneCall full (List.cons_ne_nil _ _) ?_).2 _ rfl
    intro tier alone
    cases alone
    exact usual _ _ _ rfl
  · refine (lone _ _ _ _ _ _).mpr (.inr (.inr ⟨rfl, ?_, rfl⟩))
    intro other gave
    cases gave

end CacheTiers
