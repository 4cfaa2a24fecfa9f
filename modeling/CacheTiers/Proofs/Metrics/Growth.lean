import CacheTiers.Metrics.Basic
import Mathlib.Data.List.Count

namespace CacheTiers.Metrics

def timed (metrics : Metrics) (timer : Timer) : Nat := ((metrics.totals.find? timer).map Total.count).getD 0

theorem count_record (metrics : Metrics) (counter other : Counter) :
    (metrics.record counter).count other = metrics.count other + if metrics.enabled then [counter].count other else 0 := by
  cases on : metrics.enabled with
  | false => simp [record, on]
  | true =>
      by_cases same : other = counter
      · subst same
        simp [record, on, count]
      · simp [record, on, count, same, Ne.symm same]

theorem timed_record_duration (metrics : Metrics) (timer other : Timer) (seconds : Float) :
    (metrics.recordDuration timer seconds).timed other =
      metrics.timed other + if metrics.enabled then [timer].count other else 0 := by
  cases on : metrics.enabled with
  | false => simp [recordDuration, on]
  | true =>
      by_cases same : other = timer
      · subst same
        cases found : metrics.totals.find? other with
        | none => simp [recordDuration, on, timed, found]
        | some total => simp [recordDuration, on, timed, found]
      · simp [recordDuration, on, timed, same, Ne.symm same]

structure Grows (counters : List Counter) (timers : List Timer) (before after : Metrics) : Prop where
  enabled : after.enabled = before.enabled
  counts : ∀ counter, after.count counter = before.count counter + if before.enabled then counters.count counter else 0
  timings : ∀ timer, after.timed timer = before.timed timer + if before.enabled then timers.count timer else 0

theorem grows_refl (metrics : Metrics) : Grows [] [] metrics metrics := ⟨rfl, by simp, by simp⟩

theorem grows_trans {first second : List Counter} {early late : List Timer} {a b c : Metrics}
    (before : Grows first early a b) (after : Grows second late b c) : Grows (first ++ second) (early ++ late) a c := by
  refine ⟨after.enabled.trans before.enabled, ?_, ?_⟩
  · intro counter
    rw [after.counts, before.counts, before.enabled, List.count_append]
    split <;> omega
  · intro timer
    rw [after.timings, before.timings, before.enabled, List.count_append]
    split <;> omega

theorem grows_perm {counters others : List Counter} {timers : List Timer} {before after : Metrics}
    (grows : Grows counters timers before after) (same : counters.Perm others) : Grows others timers before after :=
  ⟨grows.enabled, fun counter => same.count_eq counter ▸ grows.counts counter, grows.timings⟩

theorem record_grows (metrics : Metrics) (counter : Counter) : Grows [counter] [] metrics (metrics.record counter) := by
  refine ⟨?_, count_record metrics counter, ?_⟩
  · simp only [record]
    split <;> rfl
  · intro timer
    simp only [record]
    split <;> rfl

def recordEach (operation : String) (event : Event) (names : List String) (metrics : Metrics) : Metrics :=
  names.foldl (fun metrics name => metrics.record ⟨operation, name, event⟩) metrics

theorem record_each_grows (operation : String) (event : Event) (names : List String) (metrics : Metrics) :
    Grows (names.map fun name => ⟨operation, name, event⟩) [] metrics (metrics.recordEach operation event names) := by
  induction names generalizing metrics with
  | nil => exact grows_refl metrics
  | cons name names ih => exact grows_trans (record_grows metrics ⟨operation, name, event⟩) (ih _)

theorem record_duration_grows (metrics : Metrics) (timer : Timer) (seconds : Float) :
    Grows [] [timer] metrics (metrics.recordDuration timer seconds) := by
  refine ⟨?_, ?_, fun other => timed_record_duration metrics timer other seconds⟩
  · simp only [recordDuration]
    split <;> rfl
  · intro counter
    simp only [recordDuration]
    split <;> rfl

-- A counter that is counted once if something happened, and else not at all.
def CountsOnce (before after : Metrics) (counter : Counter) (happened : Prop) : Prop :=
  (happened → after.count counter = before.count counter + 1) ∧ (¬ happened → after.count counter = before.count counter)

theorem counts_once {counters : List Counter} {timers : List Timer} {before after : Metrics} {happened : Prop}
    (grows : Grows counters timers before after) (enabled : before.enabled = true) (counter : Counter)
    (atMost : counters.count counter ≤ 1) (told : counter ∈ counters ↔ happened) :
    before.CountsOnce after counter happened := by
  have counts := grows.counts counter
  rw [if_pos enabled] at counts
  refine ⟨?_, ?_⟩
  · intro occurred
    have positive := List.count_pos_iff.mpr (told.mpr occurred)
    omega
  · intro absent
    rw [counts, List.count_eq_zero_of_not_mem fun member => absent (told.mp member), Nat.add_zero]

theorem grows_alike {counters : List Counter} {timers others : List Timer} {before after start final : Metrics}
    (first : Grows counters timers before after) (second : Grows counters others start final)
    (enabled : before.enabled = start.enabled) (same : ∀ counter, before.count counter = start.count counter)
    (counter : Counter) : after.count counter = final.count counter := by
  rw [first.counts, second.counts, same, enabled]

end CacheTiers.Metrics
