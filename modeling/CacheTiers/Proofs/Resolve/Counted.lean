import CacheTiers.Proofs.Resolve.Accounting
import CacheTiers.Session.Basic

namespace CacheTiers

variable {W K V R E : Type}

namespace Resolve

theorem completed_counts {operation : String} {form : ResultForm V R} {names : List String} {count : Nat}
    {detached runtime asked : Bool} {skipped : Nat} {trail : List (Act V (Except (Failure E) R))} {timers : List Timer}
    {before after : Metrics} (distinct : names.Nodup) (many : names.length = count)
    (completed : Completed form count runtime asked skipped trail)
    (grows : Metrics.Grows (trail.flatMap (Act.counted operation (nameAt names) (takenAs asked) (lostAs detached asked)) ++
      skippedCounters operation (nameAt names) skipped) timers before after) (enabled : before.enabled = true) :
    Accounting operation form names detached runtime trail before after ∧
      ∀ timer, after.timed timer = before.timed timer + timers.count timer := by
  refine ⟨completed_accounting distinct (many ▸ completed) grows enabled, ?_⟩
  intro timer
  rw [grows.timings, if_pos enabled]

end Resolve

namespace Call

-- Whether the writes behind a hit are work of its own, whose failures are counted and told to nobody.
def detaches : Call W K R E → Bool
  | blocking _ _ _ => false
  | suspending _ _ _ _ _ => true

-- Whether there is something to run that work on. A blocking call does it itself.
def hasRuntime (operation : Operation (Tier W K V)) : Call W K R E → Bool
  | blocking _ _ _ => true
  | suspending _ current _ _ _ => operation.backfillRuntime || current

-- The calls that read their tiers one by one.
def Spans (tiers : List (Tier W K V)) : Call W K R E → Prop
  | blocking _ _ _ => 2 ≤ tiers.length
  | suspending _ _ _ _ _ => tiers ≠ []

theorem run_ending_accounting (ends : Metrics → Metrics) (timers : List Timer)
    (ticks : ∀ metrics, Metrics.Grows [] timers metrics (ends metrics)) (operation : Operation (Tier W K V))
    (form : ResultForm V R) (call : Call W K R E) (context : Context W) (distinct : (operation.tiers.map Tier.name).Nodup)
    (enabled : context.metrics.enabled = true) (spans : call.Spans operation.tiers) :
    let ran := call.watched.runEnding ends operation.watched form ⟨⟨context.world, []⟩, context.metrics⟩
    ran.1 ≠ none →
      Resolve.Accounting operation.name form (operation.tiers.map Tier.name) call.detaches (call.hasRuntime operation)
        ran.2.world.trail context.metrics ran.2.metrics ∧
      ∀ timer, ran.2.metrics.timed timer = context.metrics.timed timer + timers.count timer := by
  intro ran ended
  have named := Resolve.named_at operation.tiers
  cases call with
  | blocking key origin elapsed =>
      obtain ⟨asked, completed, tallied⟩ := Resolve.through_tiers_completed operation.name form key
        operation.tiers origin context.world context.metrics named
      have through := Resolve.blocking_through operation.name form key (Resolve.watchedFrom 0 operation.tiers)
        (Watched.act .asks .gave origin) (⟨⟨context.world, []⟩, context.metrics⟩ :
          Context (Watched W V (Except (Failure E) R))) (by rw [Resolve.watched_from_length]; exact spans)
      rw [← through] at completed tallied
      refine Resolve.completed_counts distinct (List.length_map _) completed ?_ enabled
      have grows := Metrics.grows_trans (Resolve.none_skipped false asked tallied) (ticks _)
      rw [List.append_nil, List.nil_append] at grows
      exact grows
  | suspending key current origin elapsed polls =>
      have inhabited : operation.tiers ≠ [] := spans
      obtain ⟨asked, skipped, closed, grows⟩ := Resolve.suspending_closed operation.name form key
        operation.tiers operation.backfillRuntime current origin context.world context.metrics inhabited named
      obtain ⟨outcome, after, whole, settled⟩ := run_ending_reached ends operation form key current origin elapsed polls _ ended
      rw [whole] at closed grows
      obtain ⟨more, longer, completed, further⟩ := Resolve.settle_completed key operation.tiers _ asked skipped outcome
        { after with metrics := ends after.metrics } named closed
      simp only [ran, settled]
      refine Resolve.completed_counts distinct (List.length_map _) completed ?_ enabled
      have all := Metrics.grows_trans (Metrics.grows_trans grows (ticks _)) further
      rw [settleEnded, longer, List.flatMap_append]
      simp only [List.append_nil, List.nil_append] at all
      refine Metrics.grows_perm all ?_
      rw [List.append_assoc, List.append_assoc]
      exact List.perm_append_comm.append_left _

-- The plain call, and the same call watched.
theorem calls_are_counted_exactly (through : Bool) (operation : Operation (Tier W K V)) (form : ResultForm V R)
    (call : Call W K R E) (context : Context W) (distinct : (operation.tiers.map Tier.name).Nodup)
    (enabled : context.metrics.enabled = true) (spans : call.Spans operation.tiers)
    (ended : (call.runEnding (call.ends through operation.name) operation form context).1 ≠ none) :
    let plain := call.runEnding (call.ends through operation.name) operation form context
    let ran := call.watched.runEnding (call.ends through operation.name) operation.watched form
      ⟨⟨context.world, []⟩, context.metrics⟩
    (through = true → plain = call.run operation form context) ∧
    (ran.1 = plain.1 ∧ ran.2.world.world = plain.2.world ∧ ran.2.metrics = plain.2.metrics) ∧
    Resolve.Accounting operation.name form (operation.tiers.map Tier.name) call.detaches (call.hasRuntime operation)
      ran.2.world.trail context.metrics plain.2.metrics ∧
    ∀ timer, plain.2.metrics.timed timer =
      context.metrics.timed timer + if through = true ∧ timer = call.timer operation.name then 1 else 0 := by
  intro plain ran
  have same := call.run_ending_watched (call.ends through operation.name) operation form context []
  have counted := run_ending_accounting _ _ (call.ends_grows through operation.name) operation form call context distinct
    enabled spans (same.1 ▸ ended)
  refine ⟨?_, same, ?_, ?_⟩
  · rintro rfl
    exact (call.run_eq_ending operation form context).symm
  · exact same.2.2 ▸ counted.1
  · intro timer
    rw [← same.2.2, counted.2 timer]
    cases through with
    | false => simp
    | true =>
        by_cases same : timer = call.timer operation.name
        · simp [same]
        · simp [same, Ne.symm same]

def partialStart : Context World :=
  ⟨⟨[⟨.memory (.new "near" 10 none), true⟩,
    ⟨.scripted ⟨"middle", .empty, none, some ⟨.tier "middle" "down", none⟩, 0, 1, .usual⟩, true⟩,
    ⟨.memory ((Memory.new "far" 10 none).insert (.int 1) (.int 5)), true⟩], .empty, []⟩, .empty⟩

def partialOperation : Operation (Tier World Json Json) :=
  ⟨"load", [World.tier ⟨0, "near"⟩, World.tier ⟨1, "middle"⟩, World.tier ⟨2, "far"⟩], ["id"], .plain, false⟩

def partialCall : Call World Json Json String := .suspending (.int 1) true (Session.originJob (.ok (.int 7)) 1) 0 (some 1)

theorem failed_backfill_is_counted :
    let after := (partialCall.run partialOperation ResultForm.plain partialStart).2.metrics
    after.count ⟨"load", "far", .hit⟩ = 1 ∧ after.count ⟨"load", "near", .backfill⟩ = 1 ∧
      after.count ⟨"load", "middle", .backfillError⟩ = 1 ∧ after.count ⟨"load", "middle", .backfill⟩ = 0 ∧
        after.timed ⟨"load", "async"⟩ = 1 := by
  have ended : (partialCall.runEnding (partialCall.ends true partialOperation.name) partialOperation ResultForm.plain
      partialStart).1 = some (.ok (.int 5)) := by
    rfl
  obtain ⟨through, _, accounting, timed⟩ := calls_are_counted_exactly true partialOperation ResultForm.plain partialCall
    partialStart (by decide) rfl (by simp [Spans, partialCall, partialOperation]) (by simp [ended])
  rw [through rfl] at accounting timed
  have shown : (partialCall.watched.runEnding (partialCall.ends true partialOperation.name) partialOperation.watched
      ResultForm.plain ⟨⟨partialStart.world, []⟩, partialStart.metrics⟩).2.world.trail =
        [.reads 0, .read 0 (.ok none), .reads 1, .read 1 (.ok none), .reads 2, .read 2 (.ok (some (.int 5))),
          .writes 0 (.int 5), .wrote 0 (.ok ()), .writes 1 (.int 5), .wrote 1 (.error (.tier "middle" "down"))] := by
    rfl
  rw [shown] at accounting
  refine ⟨?_, ?_, ?_, ?_, ?_⟩
  · exact (accounting.tiers 2 "far" rfl .hit (by simp)).1 ⟨.int 5, by simp⟩
  · exact (accounting.tiers 0 "near" rfl .backfill (by simp)).1 ⟨by simp, by simp⟩
  · exact (accounting.tiers 1 "middle" rfl .backfillError (by simp)).1 (.inl ⟨rfl, by simp, .tier "middle" "down", by simp⟩)
  · exact (accounting.tiers 1 "middle" rfl .backfill (by simp)).2 fun wrote => by simpa using wrote.2
  · exact (timed ⟨"load", "async"⟩).trans rfl

theorem run_misses_cover (operation : Operation (Tier W K V)) (form : ResultForm V R) (call : Call W K R E)
    (context : Context W) (distinct : (operation.tiers.map Tier.name).Nodup) (enabled : context.metrics.enabled = true)
    (spans : call.Spans operation.tiers) (ended : (call.run operation form context).1 ≠ none) (name : String)
    (member : name ∈ operation.tiers.map Tier.name) :
    let after := (call.run operation form context).2.metrics
    after.enabled = true ∧
      after.count (.origin operation.name) + context.metrics.count ⟨operation.name, name, .miss⟩ ≤
        context.metrics.count (.origin operation.name) + after.count ⟨operation.name, name, .miss⟩ := by
  obtain ⟨place, here⟩ := List.getElem?_of_mem member
  obtain ⟨within, _⟩ := List.getElem?_eq_some_iff.mp here
  rw [run_eq_ending] at ended
  have same := call.run_ending_watched (call.times operation.name) operation form context []
  obtain ⟨accounting, _⟩ := run_ending_accounting (call.times operation.name) [call.timer operation.name]
    (fun metrics => Metrics.record_duration_grows metrics _ _) operation form call context distinct enabled spans
    (same.1 ▸ ended)
  rw [same.2.2, ← run_eq_ending] at accounting
  generalize (call.watched.runEnding _ operation.watched form _).2.world.trail = trail at accounting
  generalize (call.run operation form context).2.metrics = after at accounting
  refine ⟨accounting.enabled.trans enabled, ?_⟩
  obtain ⟨missed, unmissed⟩ := accounting.tiers place name here .miss (by simp)
  obtain ⟨asked, unasked⟩ := accounting.origin
  by_cases origin : Act.asks ∈ trail
  · have counted := asked origin
    have miss := missed (accounting.asked origin place within)
    omega
  · have uncounted := unasked origin
    by_cases lacking : Act.read place (.ok none) ∈ trail
    · have miss := missed lacking
      omega
    · have miss := unmissed lacking
      omega

-- Over whole sequences of calls that have ended, no tier has fewer misses than there were calls of the origin.
theorem misses_cover_origin_calls (operation : Operation (Tier W K V)) (form : ResultForm V R)
    (calls : List (Call W K R E)) (context : Context W) (distinct : (operation.tiers.map Tier.name).Nodup)
    (enabled : context.metrics.enabled = true) (spans : ∀ call ∈ calls, call.Spans operation.tiers)
    (ended : ∀ report ∈ (runAll operation form calls context).1, report.result ≠ none) :
    let final := (runAll operation form calls context).2.metrics
    ∀ name ∈ operation.tiers.map Tier.name,
      final.count (.origin operation.name) + context.metrics.count ⟨operation.name, name, .miss⟩ ≤
        context.metrics.count (.origin operation.name) + final.count ⟨operation.name, name, .miss⟩ := by
  intro final name member
  induction calls generalizing context with
  | nil => exact Nat.le_refl _
  | cons call rest ih =>
      obtain ⟨first, others⟩ := List.forall_mem_cons.mp spans
      obtain ⟨here, further⟩ := List.forall_mem_cons.mp ended
      obtain ⟨still, covered⟩ := run_misses_cover operation form call context distinct enabled first here name member
      have onward := ih (call.run operation form context).2 still others further
      simp only [final, runAll]
      omega

def mixedCalls : List (Call World Json Json String) :=
  [partialCall, .blocking (.int 2) (Session.originAction (.ok (.int 7))) 0]

theorem mixed_calls_cover :
    let final := (runAll partialOperation ResultForm.plain mixedCalls partialStart).2.metrics
    final.count (.origin "load") = 1 ∧ final.count (.origin "load") ≤ final.count ⟨"load", "far", .miss⟩ := by
  have covered := misses_cover_origin_calls partialOperation ResultForm.plain mixedCalls partialStart (by decide) rfl
    (by simp [Spans, mixedCalls, partialCall, partialOperation]) (by
      have results : (runAll partialOperation ResultForm.plain mixedCalls partialStart).1.map Report.result =
          [some (.ok (.int 5)), some (.error (.cache (.tier "middle" "down")))] := by
        rfl
      intro report member
      have among := List.mem_map_of_mem (f := Report.result) member
      rw [results] at among
      rintro none
      simp [none] at among) "far" (by decide)
  refine ⟨rfl, ?_⟩
  have fresh (counter : Counter) : partialStart.metrics.count counter = 0 := rfl
  rw [fresh, fresh, Nat.zero_add, Nat.add_zero] at covered
  exact covered

-- A blocking call of an operation over one tier, a memory that is empty: its origin is asked, and no miss is counted.
def loneStart : Context World := ⟨⟨[⟨.memory (.new "near" 10 none), true⟩], .empty, []⟩, .empty⟩

def loneOperation : Operation (Tier World Json Json) := ⟨"load", [World.tier ⟨0, "near"⟩], ["id"], .plain, false⟩

def loneCall : Call World Json Json String := .blocking (.int 1) (Session.originAction (.ok (.int 7))) 0

theorem lone_tier_origin_without_miss :
    let ended := runAll loneOperation ResultForm.plain [loneCall] loneStart
    (loneOperation.tiers.map Tier.name).Nodup ∧ loneStart.metrics.enabled = true ∧
      ended.1.map Report.result = [some (.ok (.int 7))] ∧
      ¬ ended.2.metrics.count (.origin "load") + loneStart.metrics.count ⟨"load", "near", .miss⟩ ≤
        loneStart.metrics.count (.origin "load") + ended.2.metrics.count ⟨"load", "near", .miss⟩ := by
  refine ⟨by decide, rfl, rfl, ?_⟩
  have asked : (runAll loneOperation ResultForm.plain [loneCall] loneStart).2.metrics.count (.origin "load") = 1 := rfl
  have missed : (runAll loneOperation ResultForm.plain [loneCall] loneStart).2.metrics.count ⟨"load", "near", .miss⟩ = 0 := rfl
  rw [asked, missed]
  decide

end Call

end CacheTiers
