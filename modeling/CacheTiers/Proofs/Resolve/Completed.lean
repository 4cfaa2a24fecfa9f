import CacheTiers.Proofs.Resolve.Ledger

namespace CacheTiers

variable {W K V R E A : Type}

namespace Holdings

-- Where nothing is asked of the tiers, they are always what they are taken for.
def blank : Holdings W Unit := ⟨fun _ => True, fun _ => ()⟩

theorem blank_still (before after : W) : (blank : Holdings W Unit).Still before after := fun _ => ⟨trivial, rfl⟩

theorem blank_unmoved (start world : W) : (blank : Holdings W Unit).Unmoved start world := ⟨trivial, rfl⟩

theorem blank_abides (poll : Poll W A) (first : W) :
    Poll.Abides Eq (blank : Holdings W Unit).Still (fun _ _ => True) first poll := by
  induction poll generalizing first with
  | ready answer world => exact ⟨blank_still _ _, trivial⟩
  | pending rest world ih => exact ⟨blank_still _ _, fun later _ => ih later later⟩

end Holdings

namespace Resolve

-- What a write is counted as: a store where the origin was asked, else a backfill.
def takenAs (asked : Bool) : Event := if asked then .store else .backfill

-- A write that fails is counted where nobody is told of it, which is where the work is detached.
def lostAs (detached asked : Bool) : Option Event := if detached && !asked then some .backfillError else none

def skippedCounters (operation : String) (names : Nat → String) (skipped : Nat) : List Counter :=
  (List.range skipped).map fun place => ⟨operation, names place, .backfillError⟩

-- The trail of a resolution over so many tiers that has ended, along with the work that it dispatched: whether the origin
-- was asked, and how many backfills were skipped.
inductive Completed (form : ResultForm V R) (count : Nat) (runtime : Bool) :
    Bool → Nat → List (Act V (Except (Failure E) R)) → Prop where
  | failed (place : Nat) (error : CacheError) (within : place < count) :
    Completed form count runtime false 0 (Act.absences place ++ [Act.reads place, .read place (.error error)])
  | hit (place : Nat) (value : V) (answers : List (Except CacheError Unit)) (more : List (Act V (Except (Failure E) R)))
    (within : place < count) (nearer : answers.length ≤ place) (idle : runtime = false → answers = [])
    (written : more.Perm (Act.outcomes value 0 answers)) :
    Completed form count runtime false (if runtime then 0 else place)
      (Act.absences place ++ [Act.reads place, .read place (.ok (some value))] ++ more)
  | gave (given : Except (Failure E) R) (valueless : offered form given = none) :
    Completed form count runtime true 0 (Act.absences count ++ [Act.asks, .gave given])
  | stored (given : R) (value : V) (answers : List (Except CacheError Unit)) (more : List (Act V (Except (Failure E) R)))
    (valued : form.toValue? given = some value) (fits : answers.length ≤ count)
    (written : more.Perm (Act.outcomes value 0 answers)) :
    Completed form count runtime true 0 (Act.absences count ++ [Act.asks, .gave (.ok given)] ++ more)

inductive Closed (operation : String) (form : ResultForm V R) (key : K) (tiers : List (Tier W K V)) (runtime : Bool) :
    Bool → Nat → Outcome (Watched W V (Except (Failure E) R)) K V R E → List (Act V (Except (Failure E) R)) → Prop where
  | failed (place : Nat) (error : CacheError) (within : place < tiers.length) :
    Closed operation form key tiers runtime false 0 (.only (.error (.cache error)))
      (Act.absences place ++ [Act.reads place, .read place (.error error)])
  | hit (place : Nat) (value : V) (within : place < tiers.length) :
    Closed operation form key tiers runtime false (if runtime then 0 else place)
      ⟨.ok (form.ofValue value),
        if 0 < place ∧ runtime = true then some ⟨operation, watchedFrom 0 (tiers.take place), key, value⟩ else none⟩
      (Act.absences place ++ [Act.reads place, .read place (.ok (some value))])
  | gave (given : Except (Failure E) R) (result : Except (Failure E) R) (valueless : offered form given = none) :
    Closed operation form key tiers runtime true 0 (.only result) (Act.absences tiers.length ++ [Act.asks, .gave given])
  | stored (given : R) (value : V) (answers : List (Except CacheError Unit)) (more : List (Act V (Except (Failure E) R)))
    (result : Except (Failure E) R) (valued : form.toValue? given = some value) (all : answers.length = tiers.length)
    (written : more.Perm (Act.outcomes value 0 answers)) :
    Closed operation form key tiers runtime true 0 (.only result)
      (Act.absences tiers.length ++ [Act.asks, .gave (.ok given)] ++ more)

section Ended

variable {names : Nat → String} {operation : String} {form : ResultForm V R}

theorem recorded_origin_tallied {taken : Event} {lost : Option Event} {start : Metrics}
    {context : Context (Watched W V (Except (Failure E) R))} (given : Except (Failure E) R) (after : W)
    (tallied : Tallied operation names taken lost start context) :
    Tallied operation names taken lost start
      (⟨⟨after, context.world.trail ++ [Act.asks, .gave given]⟩, context.metrics.recordOrigin operation⟩ :
        Context (Watched W V (Except (Failure E) R))) :=
  tallied_more tallied rfl (Metrics.record_grows context.metrics (.origin operation))

theorem through_tiers_completed (operation : String) (form : ResultForm V R) (key : K) (tiers : List (Tier W K V))
    (origin : W → Except (Failure E) R × W) (world : W) (metrics : Metrics) (named : Named names 0 tiers) :
    let ended := throughTiers operation form key (watchedFrom 0 tiers) (Watched.act .asks .gave origin)
      ⟨⟨world, []⟩, metrics⟩
    ∃ asked, Completed form tiers.length true asked 0 ended.2.world.trail ∧
      Tallied operation names (takenAs asked) (lostAs false asked) metrics ended.2 := by
  obtain ⟨found, now, reached, here, searched⟩ := search_begun (A := Except (Failure E) R) Holdings.blank operation key tiers
    world metrics (fun _ _ _ => Holdings.blank_still _ _) (Holdings.blank_unmoved world world)
  have counted (taken : Event) := search_tallied operation taken none key 0 [] tiers
    (⟨⟨world, []⟩, metrics⟩ : Context (Watched W V (Except (Failure E) R))) named (Metrics.grows_refl metrics)
  intro ended
  have begun : ended = throughTiers operation form key (watchedFrom 0 tiers) (Watched.act .asks .gave origin) _ := rfl
  rw [throughTiers, here] at begun
  rw [here] at counted
  cases searched with
  | failed place error after within still =>
      rw [begun]
      exact ⟨false, .failed place error within, counted .backfill⟩
  | hit place value after within still =>
      obtain ⟨answers, fits, longer, grows⟩ := fill_outcomes operation .backfill key value 0 (tiers.take place)
        (⟨⟨after, Act.absences place ++ [Act.reads place, .read place (.ok (some value))]⟩, reached⟩ :
          Context (Watched W V (Except (Failure E) R))) (named_take named)
      have nearer : answers.length ≤ place := Nat.le_trans fits (List.length_take_le place tiers)
      rw [begun]
      simp only [after_fill_context]
      refine ⟨false, ?_, tallied_more (counted .backfill) longer grows⟩
      rw [longer]
      exact .hit place value answers _ within nearer (fun impossible => by cases impossible) (.refl _)
  | missed after still =>
      dsimp only at begun
      rw [Context.recordOrigin, Watched.on_world_act] at begun
      rw [begun]
      have asked (given : Except (Failure E) R) (later : W) :=
        recorded_origin_tallied given later (counted .store)
      generalize origin after = answered
      obtain ⟨given, later⟩ := answered
      cases given with
      | error failure => exact ⟨true, .gave (.error failure) rfl, asked (.error failure) later⟩
      | ok result =>
          dsimp only
          cases valued : form.toValue? result with
          | none => exact ⟨true, .gave (.ok result) valued, asked (.ok result) later⟩
          | some value =>
              obtain ⟨answers, fits, longer, grows⟩ := fill_outcomes operation .store key value 0 tiers
                (⟨⟨later, Act.absences tiers.length ++ [Act.asks, .gave (.ok result)]⟩, reached.recordOrigin operation⟩ :
                  Context (Watched W V (Except (Failure E) R))) named
              simp only [after_fill_context]
              refine ⟨true, ?_, tallied_more (asked (.ok result) later) longer grows⟩
              rw [longer]
              exact .stored result value answers _ valued fits (.refl _)

theorem hand_on_closed (operation : String) (form : ResultForm V R) (key : K) (tiers : List (Tier W K V)) (runtime : Bool)
    (given : Except (Failure E) R) (world : W) (start metrics : Metrics) (named : Named names 0 tiers)
    (tallied : Tallied operation names .store none start
      (⟨⟨world, Act.absences tiers.length ++ [Act.asks, .gave given]⟩, metrics⟩ :
        Context (Watched W V (Except (Failure E) R)))) :
    let ended := (handOn operation form key (watchedFrom 0 tiers) given).run
      ⟨⟨world, Act.absences tiers.length ++ [Act.asks, .gave given]⟩, metrics⟩
    Closed operation form key tiers runtime true 0 ended.1 ended.2.world.trail ∧
      Tallied operation names .store none start ended.2 := by
  cases given with
  | error failure => exact ⟨.gave (.error failure) _ rfl, tallied⟩
  | ok result =>
      rw [handOn]
      cases valued : form.toValue? result with
      | none => exact ⟨.gave (.ok result) _ valued, tallied⟩
      | some value =>
          obtain ⟨answers, more, all, written, same, longer, grows⟩ := write_all_counted operation .store none key value tiers
            (⟨⟨world, Act.absences tiers.length ++ [Act.asks, .gave (.ok result)]⟩, metrics⟩ :
              Context (Watched W V (Except (Failure E) R))) named
          have counted := tallied_more tallied longer grows
          simp only [Job.run_bind]
          generalize (writeAll operation .store none key value (watchedFrom 0 tiers)).run
            (⟨⟨world, Act.absences tiers.length ++ [Act.asks, .gave (.ok result)]⟩, metrics⟩ :
              Context (Watched W V (Except (Failure E) R))) = ended at same longer counted ⊢
          have closed (outcome : Except (Failure E) R) :
              Closed operation form key tiers runtime true 0 (.only outcome) ended.2.world.trail := by
            rw [longer]
            exact .stored result value answers more outcome valued all written
          cases firstError? ended.1 with
          | none => exact ⟨closed _, counted⟩
          | some error => exact ⟨closed _, counted⟩

theorem watched_names {B : Type} (place : Nat) (tiers : List (Tier W K V)) (named : Named names place tiers)
    (counter : String → B) :
    (watchedFrom place tiers : List (Tier (Watched W V A) K V)).map (fun tier => counter tier.name) =
      (List.range' place tiers.length).map fun spot => counter (names spot) := by
  induction tiers generalizing place with
  | nil => rfl
  | cons tier rest ih =>
      obtain ⟨here, others⟩ := named_cons named
      rw [watchedFrom, List.map_cons, ih (place + 1) others, List.length_cons, List.range'_succ, List.map_cons, here]
      rfl

theorem answer_hit_closed (key : K) (tiers : List (Tier W K V)) (handle current : Bool) (place : Nat) (value : V) (world : W)
    (start metrics : Metrics) (named : Named names 0 tiers) (within : place < tiers.length)
    (tallied : Tallied operation names .backfill (some .backfillError) start
      (⟨⟨world, Act.absences place ++ [Act.reads place, .read place (.ok (some value))]⟩, metrics⟩ :
        Context (Watched W V (Except (Failure E) R)))) :
    let ended := answerHit (E := E) handle current form ⟨operation, watchedFrom 0 (tiers.take place), key, value⟩
      (⟨⟨world, Act.absences place ++ [Act.reads place, .read place (.ok (some value))]⟩, metrics⟩ :
        Context (Watched W V (Except (Failure E) R)))
    let skipped := if handle || current then 0 else place
    Closed operation form key tiers (handle || current) false skipped ended.1 ended.2.world.trail ∧
      Metrics.Grows (ended.2.world.trail.flatMap (Act.counted operation names .backfill (some .backfillError)) ++
        skippedCounters operation names skipped) [] start ended.2.metrics := by
  intro ended skipped
  have idle : ended.2.world = ⟨world, Act.absences place ++ [Act.reads place, .read place (.ok (some value))]⟩ :=
    answer_hit_world handle current form _ _
  have length : (tiers.take place).length = place := List.length_take_of_le (Nat.le_of_lt within)
  have near : (watchedFrom 0 (tiers.take place) : List (Tier (Watched W V (Except (Failure E) R)) K V)).isEmpty = true ↔
      place = 0 := by
    rw [List.isEmpty_iff, ← List.length_eq_zero_iff, watched_from_length, length]
  have grows := answer_hit_grows (E := E) handle current form ⟨operation, watchedFrom 0 (tiers.take place), key, value⟩
    (⟨⟨world, Act.absences place ++ [Act.reads place, .read place (.ok (some value))]⟩, metrics⟩ :
      Context (Watched W V (Except (Failure E) R)))
  have targets := watched_names (A := Except (Failure E) R) 0 (tiers.take place) (named_take named)
    fun name => (⟨operation, name, .backfillError⟩ : Counter)
  rw [length, ← List.range_eq_range'] at targets
  have outcome : ended.1 = ⟨.ok (form.ofValue value), if 0 < place ∧ (handle || current) = true then
      some ⟨operation, watchedFrom 0 (tiers.take place), key, value⟩ else none⟩ := by
    rw [answer_hit_outcome]
    by_cases first : place = 0
    · subst first
      rfl
    · have behind := Bool.eq_false_iff.mpr (mt near.mp first)
      simp only [behind, Nat.pos_of_ne_zero first, Bool.not_false, Bool.true_and, true_and]
  rw [outcome, idle]
  refine ⟨.hit place value within, ?_⟩
  have counted := Metrics.grows_trans tallied grows
  rw [targets] at counted
  simp only [skipped, skippedCounters]
  by_cases runtime : (handle || current) = true
  · rw [if_pos runtime] at counted ⊢
    exact counted
  · rw [if_neg runtime] at counted ⊢
    exact counted

theorem none_skipped {start : Metrics} {context : Context (Watched W V A)} (detached asked : Bool)
    (tallied : Tallied operation names (takenAs asked) (lostAs detached asked) start context) :
    Metrics.Grows (context.world.trail.flatMap (Act.counted operation names (takenAs asked) (lostAs detached asked)) ++
      skippedCounters operation names 0) [] start context.metrics := by
  rw [skippedCounters, List.range_zero, List.map_nil, List.append_nil]
  exact tallied

theorem suspending_closed (operation : String) (form : ResultForm V R) (key : K) (tiers : List (Tier W K V))
    (handle current : Bool) (origin : Job W (Except (Failure E) R)) (world : W) (metrics : Metrics) (inhabited : tiers ≠ [])
    (named : Named names 0 tiers) :
    let ended := (suspending operation form key (watchedFrom 0 tiers) handle current (origin.watched .asks .gave)).run
      ⟨⟨world, []⟩, metrics⟩
    ∃ asked skipped, Closed operation form key tiers (handle || current) asked skipped ended.1 ended.2.world.trail ∧
      Metrics.Grows (ended.2.world.trail.flatMap (Act.counted operation names (takenAs asked) (lostAs true asked)) ++
        skippedCounters operation names skipped) [] metrics ended.2.metrics := by
  obtain ⟨found, now, reached, here, searched⟩ := search_async_begun (A := Except (Failure E) R) Holdings.blank operation key
    tiers world metrics (fun _ _ _ _ => Holdings.blank_abides _ _) (Holdings.blank_unmoved world world)
  have counted (taken : Event) (lost : Option Event) := search_async_tallied operation taken lost key 0 []
    tiers (⟨⟨world, []⟩, metrics⟩ : Context (Watched W V (Except (Failure E) R))) named
    (Metrics.grows_refl metrics)
  intro ended
  have begun : ended = (suspending operation form key (watchedFrom 0 tiers) handle current _).run _ := rfl
  rw [suspending, watched_from_inhabited 0 inhabited, if_neg Bool.false_ne_true, Job.run_bind, here] at begun
  rw [here] at counted
  cases searched with
  | failed place error after within still =>
      rw [begun]
      exact ⟨false, 0, .failed place error within, none_skipped true false (counted .backfill (some .backfillError))⟩
  | hit place value after within still =>
      rw [begun]
      exact ⟨false, _, answer_hit_closed key tiers handle current place value after metrics reached named within
        (counted .backfill (some .backfillError))⟩
  | missed after still =>
      have asked := recorded_origin_tallied (origin.run after).1 (origin.run after).2 (counted .store none)
      have closed := hand_on_closed operation form key tiers (handle || current) (origin.run after).1 (origin.run after).2
        metrics (reached.recordOrigin operation) named asked
      rw [begun]
      refine ⟨true, 0, ?_⟩
      have origin := Job.run_watched (A := Except (Failure E) R) (V := V) .asks .gave origin ⟨after, Act.absences tiers.length⟩
      simp only [Job.run_bind, Job.run_modify, Job.run_on_world, Context.recordOrigin, origin]
      exact ⟨closed.1, none_skipped true true closed.2⟩

theorem settle_dispatched_writes (operation : String) (key : K) (tiers : List (Tier W K V)) (runtime : Bool) (place : Nat)
    (value : V) (context : Context (Watched W V A)) (within : place < tiers.length) (named : Named names 0 tiers) :
    let ended := settleDispatched (if 0 < place ∧ runtime = true then
      some ⟨operation, watchedFrom 0 (tiers.take place), key, value⟩ else none) context
    ∃ answers more, answers.length = (if runtime then place else 0) ∧ more.Perm (Act.outcomes value 0 answers) ∧
      ended.world.trail = context.world.trail ++ more ∧
      Metrics.Grows (more.flatMap (Act.counted operation names .backfill (some .backfillError))) [] context.metrics
        ended.metrics := by
  intro ended
  by_cases sent : 0 < place ∧ runtime = true
  · obtain ⟨answers, more, all, written, _, longer, grows⟩ := write_all_counted operation .backfill (some .backfillError) key
      value (tiers.take place) context (named_take named)
    refine ⟨answers, more, ?_, written, ?_⟩
    · rw [if_pos sent.2, all, List.length_take_of_le (Nat.le_of_lt within)]
    · simp only [ended, if_pos sent, settle_dispatched_some]
      exact ⟨longer, grows⟩
  · refine ⟨[], [], ?_, .refl _, ?_⟩
    · rw [List.length_nil]
      cases runtime with
      | false => rfl
      | true => exact (Nat.eq_zero_of_not_pos fun positive => sent ⟨positive, rfl⟩).symm
    · simp only [ended, if_neg sent, settleDispatched]
      exact ⟨(List.append_nil _).symm, Metrics.grows_refl _⟩

theorem settle_completed (key : K) (tiers : List (Tier W K V)) (runtime asked : Bool) (skipped : Nat)
    (outcome : Outcome (Watched W V (Except (Failure E) R)) K V R E) (context : Context (Watched W V (Except (Failure E) R)))
    (named : Named names 0 tiers)
    (closed : Closed operation form key tiers runtime asked skipped outcome context.world.trail) :
    ∃ more, (settleDispatched outcome.dispatched context).world.trail = context.world.trail ++ more ∧
      Completed form tiers.length runtime asked skipped (settleDispatched outcome.dispatched context).world.trail ∧
      Metrics.Grows (more.flatMap (Act.counted operation names (takenAs asked) (lostAs true asked))) [] context.metrics
        (settleDispatched outcome.dispatched context).metrics := by
  generalize shown : context.world.trail = trail at closed ⊢
  cases closed with
  | failed place error within =>
      refine ⟨[], shown.trans (List.append_nil _).symm, ?_, Metrics.grows_refl _⟩
      exact shown.symm ▸ .failed place error within
  | gave given result valueless =>
      refine ⟨[], shown.trans (List.append_nil _).symm, ?_, Metrics.grows_refl _⟩
      exact shown.symm ▸ .gave given valueless
  | stored given value answers more result valued all written =>
      refine ⟨[], shown.trans (List.append_nil _).symm, ?_, Metrics.grows_refl _⟩
      exact shown.symm ▸ .stored given value answers more valued (Nat.le_of_eq all) written
  | hit place value within =>
      obtain ⟨answers, more, all, written, longer, grows⟩ := settle_dispatched_writes operation key tiers runtime place value
        context within named
      rw [shown] at longer
      rw [longer]
      refine ⟨more, rfl, .hit place value answers more within ?_ ?_ written, grows⟩
      · rw [all]
        split
        · exact Nat.le_refl place
        · exact Nat.zero_le place
      · rintro rfl
        exact List.length_eq_zero_iff.mp all

end Ended

end Resolve

end CacheTiers
