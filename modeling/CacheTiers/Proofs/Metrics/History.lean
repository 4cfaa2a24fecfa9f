import CacheTiers.Metrics.Text
import CacheTiers.Proofs.Text.Listed

namespace CacheTiers

def Counter.texts (counter : Counter) : List String := [counter.operation, counter.tier, counter.event.text]

def Timer.texts (timer : Timer) : List String := [timer.operation, timer.mode]

theorem counter_texts_tell (a b : Counter) (same : a.texts = b.texts) : a = b := by
  obtain ⟨operation, tier, event⟩ := a
  obtain ⟨other, place, kind⟩ := b
  have named : event.text = kind.text → event = kind := by cases event <;> cases kind <;> decide
  simp only [Counter.texts, List.cons.injEq, and_true] at same
  obtain ⟨rfl, rfl, alike⟩ := same
  rw [named alike]

theorem timer_texts_tell (a b : Timer) (same : a.texts = b.texts) : a = b := by
  obtain ⟨operation, mode⟩ := a
  obtain ⟨other, kind⟩ := b
  simp only [Timer.texts, List.cons.injEq, and_true] at same
  obtain ⟨rfl, rfl⟩ := same
  rfl

namespace Metrics

inductive Change where
  | record (counter : Counter)
  | recordOrigin (operation : String)
  | recordDuration (timer : Timer) (seconds : Float)
  | setEnabled (on : Bool)
  | reset

namespace Change

def run (metrics : Metrics) : Change → Metrics
  | record counter => metrics.record counter
  | recordOrigin operation => metrics.recordOrigin operation
  | recordDuration timer seconds => metrics.recordDuration timer seconds
  | setEnabled on => metrics.setEnabled on
  | reset => metrics.reset

def isReset : Change → Bool
  | reset => true
  | _ => false

def switch (on : Bool) : Change → Bool
  | setEnabled next => next
  | _ => on

def counter? : Change → Option Counter
  | record counter => some counter
  | recordOrigin operation => some ⟨operation, "origin", .call⟩
  | _ => none

def durationFor? (timer : Timer) : Change → Option Float
  | recordDuration other seconds => if other = timer then some seconds else none
  | _ => none

end Change

def after (history : List Change) (metrics : Metrics) : Metrics := history.foldl Change.run metrics

def Unreset (history : List Change) : Prop := ∀ change ∈ history, change.isReset = false

instance (history : List Change) : Decidable (Unreset history) := List.decidableBAll _ history

-- The changes that were made while counting was on and that no reset has followed; `on` says whether it is on at first.
def standing (on : Bool) : List Change → List Change
  | [] => []
  | change :: rest =>
    if on ∧ Unreset rest then change :: standing (change.switch on) rest else standing (change.switch on) rest

def counted (history : List Change) : List Counter := (standing true history).filterMap Change.counter?

def measured (timer : Timer) (history : List Change) : List Float :=
  (standing true history).filterMap (Change.durationFor? timer)

theorem standing_length (on : Bool) (history : List Change) : (standing on history).length ≤ history.length := by
  induction history generalizing on with
  | nil => exact Nat.le_refl 0
  | cons change rest ih =>
      have later := ih (change.switch on)
      rw [standing]
      split
      · rw [List.length_cons, List.length_cons]
        omega
      · rw [List.length_cons]
        omega

theorem run_enabled (change : Change) (metrics : Metrics) :
    (change.run metrics).enabled = change.switch metrics.enabled := by
  cases change with
  | record counter =>
      rw [Change.run, record]
      split <;> rfl
  | recordOrigin operation =>
      rw [Change.run, recordOrigin, record]
      split <;> rfl
  | recordDuration timer seconds =>
      rw [Change.run, recordDuration]
      split <;> rfl
  | setEnabled on => rfl
  | reset => rfl

section Readings

-- What is read off the metrics where each change that counts moves it by a step and a reset blanks it.
variable {A : Type} (reading : Metrics → A) (blank : A) (step : A → Change → A)

def Moves : Prop :=
  ∀ metrics change, reading (change.run metrics) =
    let kept := if change.isReset then blank else reading metrics
    if metrics.enabled then step kept change else kept

theorem reading_after (moves : Moves reading blank step) (history : List Change) (metrics : Metrics) :
    reading (after history metrics) =
      (standing metrics.enabled history).foldl step (if Unreset history then reading metrics else blank) := by
  induction history generalizing metrics with
  | nil => rfl
  | cons change rest ih =>
      have unreset : Unreset (change :: rest) ↔ change.isReset = false ∧ Unreset rest := List.forall_mem_cons
      have moved := moves metrics change
      rw [after, List.foldl_cons, ← after, ih, run_enabled, standing]
      -- With a reset still to come, neither what was there nor this change shows in the end.
      by_cases quiet : Unreset rest
      · have kept : (if Unreset (change :: rest) then reading metrics else blank) =
            if change.isReset then blank else reading metrics := by
          cases reset : change.isReset with
          | false => simp [unreset, quiet, reset]
          | true => simp [unreset, reset]
        rw [if_pos quiet, kept, moved]
        by_cases on : metrics.enabled = true
        · simp only [on, quiet, and_self, if_true, List.foldl_cons]
        · simp only [on, Bool.false_eq_true, false_and, if_false]
      · have later : ¬ Unreset (change :: rest) := fun both => quiet (unreset.mp both).2
        rw [if_neg quiet, if_neg later, if_neg (fun both => quiet both.2)]

end Readings

def entryOf (n : Nat) : Option Nat := if n = 0 then none else some n

def Change.counts (counter : Counter) (found : Option Nat) (change : Change) : Option Nat :=
  if change.counter? = some counter then some (found.getD 0 + 1) else found

theorem counts_move (counter : Counter) :
    Moves (fun metrics => metrics.counts.find? counter) none (Change.counts counter) := by
  have recorded (metrics : Metrics) (other : Counter) : (metrics.record other).counts.find? counter =
      if metrics.enabled then
        if some other = some counter then some ((metrics.counts.find? counter).getD 0 + 1) else metrics.counts.find? counter
      else metrics.counts.find? counter := by
    rw [record]
    by_cases on : metrics.enabled = true
    · rw [if_pos on, if_pos on, Table.find?_insert]
      by_cases same : counter = other
      · rw [if_pos same, if_pos (by rw [same]), same, count]
      · rw [if_neg same, if_neg (fun equal => same (Option.some.inj equal).symm)]
    · rw [if_neg on, if_neg on]
  intro metrics change
  cases change with
  | record other => exact recorded metrics other
  | recordOrigin operation => exact recorded metrics (.origin operation)
  | recordDuration timer seconds =>
      simp only [Change.run, recordDuration, Change.counts, Change.counter?, Change.isReset]
      split <;> simp
  | setEnabled on => simp [Change.run, setEnabled, Change.counts, Change.counter?, Change.isReset]
  | reset => simp [Change.run, reset, empty, Change.counts, Change.counter?, Change.isReset]

theorem counts_fold (counter : Counter) (n : Nat) (changes : List Change) :
    changes.foldl (Change.counts counter) (entryOf n) =
      entryOf (n + (changes.filterMap Change.counter?).count counter) := by
  induction changes generalizing n with
  | nil => rfl
  | cons change rest ih =>
      have next : Change.counts counter (entryOf n) change = entryOf (n + change.counter?.toList.count counter) := by
        rw [Change.counts]
        cases told : change.counter? with
        | none => simp
        | some other =>
            by_cases same : other = counter
            · subst same
              by_cases zero : n = 0 <;> simp [entryOf, zero]
            · simp [same]
      rw [List.foldl_cons, next, ih]
      cases told : change.counter? with
      | none => simp [told]
      | some other =>
          rw [List.filterMap_cons_some told, List.count_cons, Option.toList_some, List.count_singleton]
          exact congrArg entryOf (by omega)

theorem find_count_after (history : List Change) (counter : Counter) :
    (after history empty).counts.find? counter = entryOf ((counted history).count counter) := by
  have folded := counts_fold counter 0 (standing true history)
  rw [Nat.zero_add] at folded
  rw [counted, ← folded]
  have read := reading_after _ _ _ (counts_move counter) history empty
  simp only [empty, Table.find?_empty, ite_self] at read
  exact read

def totalOf (durations : List Float) : Option Total :=
  if durations = [] then none else some ⟨durations.foldl (· + ·) 0, durations.length⟩

def Change.times (timer : Timer) (found : Option Total) (change : Change) : Option Total :=
  match change.durationFor? timer with
  | none => found
  | some seconds => some ⟨(found.getD ⟨0, 0⟩).seconds + seconds, (found.getD ⟨0, 0⟩).count + 1⟩

theorem totals_move (timer : Timer) : Moves (fun metrics => metrics.totals.find? timer) none (Change.times timer) := by
  intro metrics change
  cases change with
  | record counter =>
      simp only [Change.run, record, Change.times, Change.durationFor?, Change.isReset]
      split <;> simp
  | recordOrigin operation =>
      simp only [Change.run, recordOrigin, record, Change.times, Change.durationFor?, Change.isReset]
      split <;> simp
  | recordDuration other seconds =>
      simp only [Change.run, recordDuration, Change.times, Change.durationFor?, Change.isReset]
      by_cases on : metrics.enabled = true
      · by_cases same : timer = other
        · simp [on, same]
        · simp [on, same, Ne.symm same]
      · simp [on]
  | setEnabled on => simp [Change.run, setEnabled, Change.times, Change.durationFor?, Change.isReset]
  | reset => simp [Change.run, reset, empty, Change.times, Change.durationFor?, Change.isReset]

theorem times_fold (timer : Timer) (durations : List Float) (changes : List Change) :
    changes.foldl (Change.times timer) (totalOf durations) =
      totalOf (durations ++ changes.filterMap (Change.durationFor? timer)) := by
  induction changes generalizing durations with
  | nil => simp
  | cons change rest ih =>
      have next : Change.times timer (totalOf durations) change =
          totalOf (durations ++ (change.durationFor? timer).toList) := by
        rw [Change.times]
        cases change.durationFor? timer with
        | none => simp
        | some seconds => by_cases none : durations = [] <;> simp [totalOf, none]
      rw [List.foldl_cons, next, ih]
      cases told : change.durationFor? timer with
      | none => simp [told]
      | some seconds => simp [told]

theorem find_total_after (history : List Change) (timer : Timer) :
    (after history empty).totals.find? timer = totalOf (measured timer history) := by
  have folded := times_fold timer [] (standing true history)
  rw [List.nil_append] at folded
  rw [measured, ← folded]
  have read := reading_after _ _ _ (totals_move timer) history empty
  simp only [empty, Table.find?_empty, ite_self] at read
  exact read

theorem before_iff (a b : Counter) : before a b = true ↔ a.texts ≤ b.texts := by
  rw [Counter.texts, Counter.texts, texts_le_iff, texts_le_iff, last_text_le_iff, before]
  by_cases operation : a.operation = b.operation
  · by_cases tier : a.tier = b.tier
    · simp [operation, tier]
    · simp [operation, tier]
  · simp [operation]

theorem timer_before_iff (a b : Timer) : timerBefore a b = true ↔ a.texts ≤ b.texts := by
  rw [Timer.texts, Timer.texts, texts_le_iff, last_text_le_iff, timerBefore]
  by_cases operation : a.operation = b.operation
  · simp [operation]
  · simp [operation]

def countLine (entry : Counter × Nat) : String :=
  "oxtier_events_total\x7boperation=\"" ++ entry.1.operation ++ "\", tier=\"" ++ entry.1.tier ++ "\", event=\"" ++
    entry.1.event.text ++ "\"\x7d " ++ toString entry.2 ++ "\n"

def secondsLine (entry : Timer × Total) : String :=
  "oxtier_resolve_duration_seconds_sum\x7boperation=\"" ++ entry.1.operation ++ "\", mode=\"" ++ entry.1.mode ++ "\"\x7d " ++
    Decimal.ofFloat entry.2.seconds ++ "\n"

def durationsLine (entry : Timer × Total) : String :=
  "oxtier_resolve_duration_seconds_count\x7boperation=\"" ++ entry.1.operation ++ "\", mode=\"" ++ entry.1.mode ++ "\"\x7d " ++
    toString entry.2.count ++ "\n"

theorem two_labels_line {metric first second opening middle : String} (opens : metric ++ "\x7b" ++ first ++ "=\"" = opening)
    (divides : "\"" ++ ", " ++ second ++ "=\"" = middle) (x y value : String) :
    (Sample.mk metric [(first, x), (second, y)] value).line ++ "\n" =
      opening ++ x ++ middle ++ y ++ "\"\x7d " ++ value ++ "\n" := by
  have closes : "\"" ++ "\x7d " = "\"\x7d " := by decide
  subst opens divides
  simp only [Sample.line, Sample.label, List.map_cons, List.map_nil, String.intercalate_cons_cons,
    String.intercalate_singleton, ← closes, String.append_assoc]

theorem three_labels_line {metric first second third opening middle next : String}
    (opens : metric ++ "\x7b" ++ first ++ "=\"" = opening) (divides : "\"" ++ ", " ++ second ++ "=\"" = middle)
    (follows : "\"" ++ ", " ++ third ++ "=\"" = next) (x y z value : String) :
    (Sample.mk metric [(first, x), (second, y), (third, z)] value).line ++ "\n" =
      opening ++ x ++ middle ++ y ++ next ++ z ++ "\"\x7d " ++ value ++ "\n" := by
  have closes : "\"" ++ "\x7d " = "\"\x7d " := by decide
  subst opens divides follows
  simp only [Sample.line, Sample.label, List.map_cons, List.map_nil, String.intercalate_cons_cons,
    String.intercalate_singleton, ← closes, String.append_assoc]

theorem count_line (entry : Counter × Nat) : (eventSample entry).line ++ "\n" = countLine entry :=
  three_labels_line (by decide) (by decide) (by decide) entry.1.operation entry.1.tier entry.1.event.text (toString entry.2)

theorem timer_lines (entry : Timer × Total) :
    String.join ((timerSamples Decimal.ofFloat entry).map fun sample => sample.line ++ "\n") =
      secondsLine entry ++ durationsLine entry := by
  have seconds : (timerSamples Decimal.ofFloat entry).map (fun sample => sample.line ++ "\n") =
      [secondsLine entry, durationsLine entry] := by
    refine congrArg₂ List.cons ?_ (congrArg₂ List.cons ?_ rfl)
    · exact two_labels_line (by decide) (by decide) entry.1.operation entry.1.mode (Decimal.ofFloat entry.2.seconds)
    · exact two_labels_line (by decide) (by decide) entry.1.operation entry.1.mode (toString entry.2.count)
  rw [seconds, String.join_cons, String.join_cons, String.join_nil, String.append_empty]

theorem join_flat_map {A : Type} (lines : A → List String) (entries : List A) :
    String.join (entries.flatMap lines) = String.join (entries.map fun entry => String.join (lines entry)) := by
  induction entries with
  | nil => rfl
  | cons entry rest ih => rw [List.flatMap_cons, String.join_append, ih, List.map_cons, String.join_cons]

theorem render_lines (metrics : Metrics) :
    metrics.render = String.join (metrics.snapshot.map countLine) ++
      String.join (metrics.timings.map fun entry => secondsLine entry ++ durationsLine entry) := by
  have counters : (metrics.snapshot.map eventSample).map (fun sample => sample.line ++ "\n") =
      metrics.snapshot.map countLine := by
    rw [List.map_map]
    exact List.map_congr_left fun entry _ => count_line entry
  have timers : String.join ((metrics.timings.flatMap (timerSamples Decimal.ofFloat)).map fun sample => sample.line ++ "\n") =
      String.join (metrics.timings.map fun entry => secondsLine entry ++ durationsLine entry) := by
    rw [List.map_flatMap, join_flat_map]
    exact congrArg String.join (List.map_congr_left fun entry _ => timer_lines entry)
  rw [render, textWith, samples, List.map_append, String.join_append, counters, timers]

-- The metrics that a history leaves, told by the history alone: a number in them is at most that of the changes made.
structure Follows (history : List Change) (metrics : Metrics) : Prop where
  count : ∀ counter, metrics.count counter = (counted history).count counter
  bounded : ∀ counter, metrics.count counter ≤ history.length
  listed : ∀ counter n, (counter, n) ∈ metrics.snapshot ↔ n = metrics.count counter ∧ n ≠ 0
  ascending : metrics.snapshot.Pairwise fun earlier later => Text.Before earlier.1.texts later.1.texts
  timed : ∀ timer total, (timer, total) ∈ metrics.timings ↔
    total = ⟨(measured timer history).foldl (· + ·) 0, (measured timer history).length⟩ ∧ measured timer history ≠ []
  timedBounded : ∀ timer, (measured timer history).length ≤ history.length
  timersAscending : metrics.timings.Pairwise fun earlier later => Text.Before earlier.1.texts later.1.texts
  rendered : metrics.render = String.join (metrics.snapshot.map countLine) ++
    String.join (metrics.timings.map fun entry => secondsLine entry ++ durationsLine entry)

theorem metrics_follow_history (history : List Change) : Follows history (after history empty) := by
  have found := find_count_after history
  have count (counter : Counter) : (after history empty).count counter = (counted history).count counter := by
    rw [Metrics.count, found, entryOf]
    split
    · next none => exact none.symm
    · rfl
  have most {A : Type} (kept : Change → Option A) : ((standing true history).filterMap kept).length ≤ history.length :=
    Nat.le_trans (List.length_filterMap_le kept _) (standing_length true history)
  refine ⟨count, ?_, ?_, ?_, ?_, fun timer => most (Change.durationFor? timer), ?_, render_lines _⟩
  · intro counter
    rw [count]
    exact Nat.le_trans List.count_le_length (most Change.counter?)
  · intro counter n
    rw [snapshot, List.mem_mergeSort, ← find_entry, found, entryOf, count]
    split
    · next none => simp [none]
    · next some =>
        rw [Option.some.injEq]
        exact ⟨fun same => ⟨same.symm, same ▸ some⟩, fun same => same.1.symm⟩
  · exact listed_before Counter.texts before _ counter_texts_tell before_iff
  · intro timer total
    rw [timings, List.mem_mergeSort, ← find_entry, find_total_after, totalOf]
    split
    · next none => simp [none]
    · next some =>
        rw [Option.some.injEq]
        exact ⟨fun same => ⟨same.symm, some⟩, fun same => same.1.symm⟩
  · exact listed_before Timer.texts timerBefore _ timer_texts_tell timer_before_iff

example :
    (after [.recordOrigin "user", .reset, .recordOrigin "user", .setEnabled false, .recordOrigin "user"] empty).count
      ⟨"user", "origin", .call⟩ = 1 := by
  decide

end Metrics

end CacheTiers
