import CacheTiers.Config.Check
import CacheTiers.Proofs.Json.Lexed
import CacheTiers.Proofs.Metrics.Backslashes
import CacheTiers.Proofs.Metrics.History
import Mathlib.Data.List.TakeWhile

namespace CacheTiers

namespace Exposition

structure Numeric (text : String) : Prop where
  number : isNumber text = true
  word : Worded text

structure Decimals (characters : List Char) : Prop where
  decimal : isDecimal characters = true
  each : ∀ c ∈ characters, c.isDigit = true ∨ c = '.'

theorem decimals_of_digits (digits : List Char) (some : digits ≠ []) (all : ∀ c ∈ digits, c.isDigit = true) :
    Decimals digits := by
  refine ⟨?_, fun c member => .inl (all c member)⟩
  rw [isDecimal, List.takeWhile_eq_self_iff.mpr all, List.dropWhile_eq_nil_iff.mpr all]
  simp [some, isExponent]

theorem decimals_of_point (whole fraction : List Char) (some : whole ≠ []) (all : ∀ c ∈ whole, c.isDigit = true)
    (more : ∀ c ∈ fraction, c.isDigit = true) : Decimals (whole ++ '.' :: fraction) := by
  constructor
  · have before : (whole ++ '.' :: fraction).takeWhile Char.isDigit = whole := by
      rw [List.takeWhile_append_of_pos all, List.takeWhile_cons_of_neg (by decide), List.append_nil]
    have behind : (whole ++ '.' :: fraction).dropWhile Char.isDigit = '.' :: fraction := by
      rw [List.dropWhile_append_of_pos all, List.dropWhile_cons_of_neg (by decide)]
    have spent : fraction.dropWhile Char.isDigit = [] := List.dropWhile_eq_nil_iff.mpr more
    rw [isDecimal, before, behind]
    simp [some, spent, isExponent]
  · intro c member
    rcases List.mem_append.mp member with first | later
    · exact .inl (all c first)
    · rcases List.mem_cons.mp later with point | digit
      · exact .inr point
      · exact .inl (more c digit)

theorem decimal_char_kept (c : Char) (part : c.isDigit = true ∨ c = '.') : isWordChar c = true := by
  rcases part with digit | rfl
  · simp [isWordChar, isMetricChar, isLabelChar, Char.isAlphanum, digit]
  · rfl

theorem unsigned_decimals (characters : List Char) (decimals : Decimals characters) : unsigned characters = characters := by
  cases characters with
  | nil => rfl
  | cons c rest =>
      have part := decimals.each c List.mem_cons_self
      unfold unsigned
      split
      · next same =>
          cases same
          rcases part with digit | point <;> contradiction
      · next same =>
          cases same
          rcases part with digit | point <;> contradiction
      · rfl

theorem numeric_of_decimals (negative : Bool) (text : String) (decimals : Decimals text.toList) :
    Numeric ((if negative then "-" else "") ++ text) := by
  have size : unsigned ((if negative then "-" else "") ++ text).toList = text.toList := by
    cases negative with
    | false => simpa using unsigned_decimals text.toList decimals
    | true => simp [unsigned]
  refine ⟨by rw [isNumber, size, decimals.decimal, Bool.true_or], ?_, List.all_eq_true.mpr ?_⟩
  · intro none
    rw [none] at size
    have empty := decimals.decimal
    rw [← size] at empty
    cases empty
  · intro c member
    cases negative with
    | false => exact decimal_char_kept c (decimals.each c (by simpa using member))
    | true =>
        have split : c = '-' ∨ c ∈ text.toList := by simpa using member
        rcases split with rfl | later
        · rfl
        · exact decimal_char_kept c (decimals.each c later)

theorem numeric_nat (n : Nat) : Numeric (toString n) := by
  have digits : (toString n).toList = Nat.toDigits 10 n := String.toList_ofList
  have decimals := decimals_of_digits (Nat.toDigits 10 n) Nat.toDigits_ne_nil (Json.to_digits_digits n)
  rw [← digits] at decimals
  have numeric := numeric_of_decimals false (toString n) decimals
  rwa [if_neg (by decide), String.empty_append] at numeric

theorem decimals_positional (scaled : Decimal.Scaled) : Decimals scaled.positional.toList := by
  have digits := Json.to_digits_digits scaled.digits
  have zeros (count : Nat) : ∀ c ∈ List.replicate count '0', c.isDigit = true := by
    intro c member
    rw [List.eq_of_mem_replicate member]
    rfl
  rw [Decimal.Scaled.positional]
  split
  · rw [String.toList_ofList]
    refine decimals_of_digits _ (by simp) ?_
    exact List.forall_mem_append.mpr ⟨digits, zeros _⟩
  · next e _ =>
      generalize padding : List.replicate (e + 1 + 1 - (Nat.toDigits 10 scaled.digits).length) '0' ++
        Nat.toDigits 10 scaled.digits = padded
      have long : e + 1 < padded.length := by
        rw [← padding, List.length_append, List.length_replicate]
        omega
      have all : ∀ c ∈ padded, c.isDigit = true := by
        rw [← padding]
        exact List.forall_mem_append.mpr ⟨zeros _, digits⟩
      have whole : padded.take (padded.length - (e + 1)) ≠ [] := by
        intro none
        have short := congrArg List.length none
        rw [List.length_take, List.length_nil] at short
        omega
      have front : ∀ c ∈ padded.take (padded.length - (e + 1)), c.isDigit = true := fun c member =>
        all c (List.mem_of_mem_take member)
      simp only [padding]
      split
      · rw [String.toList_ofList]
        exact decimals_of_digits _ whole front
      · rw [String.toList_ofList]
        refine decimals_of_point _ _ whole front fun c member => all c ?_
        exact List.mem_of_mem_drop (List.mem_reverse.mp ((List.dropWhile_sublist _).mem (List.mem_reverse.mp member)))

theorem numeric_float (x : Float) : Numeric (Decimal.ofFloat x) := by
  rw [Decimal.ofFloat]
  cases Decimal.partsOfBits x.toBits.toNat with
  | zero negative => cases negative <;> exact ⟨by decide, ⟨by decide, by decide⟩⟩
  | finite negative magnitude => exact numeric_of_decimals negative _ (decimals_positional magnitude.shortest)
  | infinite negative => cases negative <;> exact ⟨by decide, ⟨by decide, by decide⟩⟩
  | undefined => exact ⟨by decide, ⟨by decide, by decide⟩⟩

theorem writable_of_names (sample : Sample) (names : List String) (labelled : sample.labels.map Prod.fst = names)
    (metric : isMetricName sample.metric = true) (sound : ∀ name ∈ names, isLabelName name = true) (distinct : names.Nodup)
    (numeric : Numeric sample.value) : Writable sample := by
  subst labelled
  exact ⟨⟨metric, fun label member => sound label.1 (List.mem_map_of_mem member), distinct, numeric.number⟩, numeric.word⟩

def natural? (text : String) : Option Nat :=
  if text ≠ "" ∧ text.toList.all Char.isDigit then some (Nat.ofDigitChars 10 text.toList 0) else none

def count? (sample : Sample) : Option (Counter × Nat) :=
  if sample.metric = "oxtier_events_total" then do
    let operation ← lookup "operation" sample.labels
    let tier ← lookup "tier" sample.labels
    let event ← (lookup "event" sample.labels).bind Event.ofText?
    let n ← natural? sample.value
    some (⟨operation, tier, event⟩, n)
  else none

def durations? (sample : Sample) : Option (Timer × Nat) :=
  if sample.metric = "oxtier_resolve_duration_seconds_count" then do
    let operation ← lookup "operation" sample.labels
    let mode ← lookup "mode" sample.labels
    let n ← natural? sample.value
    some (⟨operation, mode⟩, n)
  else none

structure Report where
  counts : List (Counter × Nat)
  durations : List (Timer × Nat)

def report? (text : String) : Option Report :=
  (read text).map fun samples => ⟨samples.filterMap count?, samples.filterMap durations?⟩

end Exposition

namespace Metrics

open Exposition

structure PlainNames (metrics : Metrics) : Prop where
  counters : ∀ entry ∈ metrics.counts.entries, Plain entry.1.operation ∧ Plain entry.1.tier
  timers : ∀ entry ∈ metrics.totals.entries, Plain entry.1.operation ∧ Plain entry.1.mode

def report (metrics : Metrics) : Report :=
  ⟨metrics.snapshot, metrics.timings.map fun entry => (entry.1, entry.2.count)⟩

theorem samples_writable (metrics : Metrics) : ∀ sample ∈ metrics.samples Decimal.ofFloat, Writable sample := by
  intro sample member
  rcases List.mem_append.mp member with counter | timer
  · obtain ⟨entry, _, rfl⟩ := List.mem_map.mp counter
    exact writable_of_names _ ["operation", "tier", "event"] rfl
      (show isMetricName "oxtier_events_total" = true by decide) (by decide) (by decide) (numeric_nat entry.2)
  · obtain ⟨entry, _, part⟩ := List.mem_flatMap.mp timer
    rcases List.mem_pair.mp part with rfl | rfl
    · exact writable_of_names _ ["operation", "mode"] rfl
        (show isMetricName "oxtier_resolve_duration_seconds_sum" = true by decide) (by decide) (by decide)
        (numeric_float entry.2.seconds)
    · exact writable_of_names _ ["operation", "mode"] rfl
        (show isMetricName "oxtier_resolve_duration_seconds_count" = true by decide) (by decide) (by decide)
        (numeric_nat entry.2.count)

theorem event_plain (event : Event) : Plain event.text := by
  cases event <;> decide

theorem samples_plain_iff (metrics : Metrics) (seconds : Float → String) :
    (∀ sample ∈ metrics.samples seconds, ∀ label ∈ sample.labels, Plain label.2) ↔ metrics.PlainNames := by
  have counter (entry : Counter × Nat) :
      (∀ label ∈ (eventSample entry).labels, Plain label.2) ↔ Plain entry.1.operation ∧ Plain entry.1.tier := by
    simp [eventSample, event_plain]
  have timer (entry : Timer × Total) :
      (∀ sample ∈ timerSamples seconds entry, ∀ label ∈ sample.labels, Plain label.2) ↔
        Plain entry.1.operation ∧ Plain entry.1.mode := by
    simp only [timerSamples, List.forall_mem_cons, List.not_mem_nil, false_implies, implies_true, and_true, and_self]
  rw [samples, List.forall_mem_append, List.forall_mem_map, List.forall_mem_flatMap]
  simp only [counter, timer, snapshot, timings, List.mem_mergeSort]
  exact ⟨fun both => ⟨both.1, both.2⟩, fun plain => ⟨plain.counters, plain.timers⟩⟩

theorem event_found (event : Event) : Event.ofText? event.text = some event := by
  cases event <;> decide

theorem natural_found (n : Nat) : natural? (toString n) = some n := by
  have digits : (toString n).toList = Nat.toDigits 10 n := String.toList_ofList
  have all : (Nat.toDigits 10 n).all Char.isDigit = true := List.all_eq_true.mpr (Json.to_digits_digits n)
  rw [natural?, digits, if_pos ⟨(numeric_nat n).word.nonempty, all⟩, Nat.ofDigitChars_toDigits (by decide) (by decide)]

theorem samples_counts (metrics : Metrics) (seconds : Float → String) :
    (metrics.samples seconds).filterMap count? = metrics.snapshot := by
  have own (entry : Counter × Nat) : count? (eventSample entry) = some entry := by
    have number : natural? entry.2.repr = some entry.2 := natural_found entry.2
    simp [count?, eventSample, eventMetric, lookup, event_found, number]
  have others (entry : Timer × Total) : (timerSamples seconds entry).filterMap count? = [] := by
    simp [count?, timerSamples, secondsMetric, durationsMetric]
  rw [samples, List.filterMap_append, List.filterMap_map, List.filterMap_flatMap]
  simp only [Function.comp_def, own, others]
  simp

theorem samples_durations (metrics : Metrics) (seconds : Float → String) :
    (metrics.samples seconds).filterMap durations? = metrics.timings.map fun entry => (entry.1, entry.2.count) := by
  have own (entry : Timer × Total) :
      (timerSamples seconds entry).filterMap durations? = [(entry.1, entry.2.count)] := by
    have sum : durations? ⟨secondsMetric, [("operation", entry.1.operation), ("mode", entry.1.mode)],
        seconds entry.2.seconds⟩ = none := rfl
    have number : durations? ⟨durationsMetric, [("operation", entry.1.operation), ("mode", entry.1.mode)],
        toString entry.2.count⟩ = some (entry.1, entry.2.count) := by
      simp only [durations?, durationsMetric, lookup, natural_found]
      rfl
    rw [timerSamples, List.filterMap_cons_none sum, List.filterMap_cons_some number, List.filterMap_nil]
  have others (entry : Counter × Nat) : durations? (eventSample entry) = none := rfl
  rw [samples, List.filterMap_append, List.filterMap_map, List.filterMap_flatMap]
  simp only [Function.comp_def, own, others]
  simp [List.map_eq_flatMap]

theorem report_of_samples (metrics : Metrics) (text : String)
    (back : read text = some (metrics.samples Decimal.ofFloat)) : report? text = some metrics.report := by
  rw [report?, back, Option.map_some, samples_counts, samples_durations]
  rfl

-- Where label values are escaped, names may be any.
theorem escaped_metrics_are_read_back (metrics : Metrics) :
    report? (expose (metrics.samples Decimal.ofFloat)) = some metrics.report :=
  report_of_samples metrics _ (read_exposed _ metrics.samples_writable)

theorem plain_metrics_are_read_back (metrics : Metrics) :
    (read metrics.render = some (metrics.samples Decimal.ofFloat) ↔ metrics.PlainNames) ∧
      (metrics.PlainNames → report? metrics.render = some metrics.report ∧
        ∀ other : Metrics, other.PlainNames → other.render = metrics.render → other.report = metrics.report) := by
  have exact (metrics : Metrics) : read metrics.render = some (metrics.samples Decimal.ofFloat) ↔ metrics.PlainNames :=
    (read_written_iff _ metrics.samples_writable).trans (samples_plain_iff metrics Decimal.ofFloat)
  have told (metrics : Metrics) (plain : metrics.PlainNames) : report? metrics.render = some metrics.report :=
    report_of_samples metrics metrics.render ((exact metrics).mpr plain)
  refine ⟨exact metrics, fun plain => ⟨told metrics plain, fun other also same => ?_⟩⟩
  have both := told other also
  rw [same, told metrics plain] at both
  exact (Option.some.inj both).symm

theorem restarted_metrics_are_read_back :
    let metrics := after [.record ⟨"user", "l1", .hit⟩, .recordDuration ⟨"user", "sync"⟩ 0.5] empty
    let other := after [.recordOrigin "user", .reset, .record ⟨"user", "l1", .hit⟩,
      .recordDuration ⟨"user", "sync"⟩ 0.5] empty
    read metrics.render = some (metrics.samples Decimal.ofFloat) ∧ report? metrics.render = some metrics.report ∧
      other.report = metrics.report := by
  intro metrics other
  have plain : metrics.PlainNames := ⟨by decide, by decide⟩
  have same : other = metrics := rfl
  obtain ⟨exact, told⟩ := plain_metrics_are_read_back metrics
  exact ⟨exact.mpr plain, (told plain).1, (told plain).2 other (same ▸ plain) (congrArg render same)⟩

theorem snapshot_once (counter : Counter) : (after [.record counter] empty).snapshot = [(counter, 1)] :=
  List.mergeSort_singleton _

theorem render_once (counter : Counter) : (after [.record counter] empty).render = countLine (counter, 1) := by
  have timed : (after [.record counter] empty).timings = [] := List.mergeSort_nil
  rw [render_lines, snapshot_once, timed, List.map_singleton, List.map_nil, String.join_cons, String.join_nil,
    String.append_empty, String.append_empty]

-- A name with quotes in it is read as labels that nobody gave, or not at all.
theorem quoted_names_are_confused :
    (after [.record ⟨"a\", tier=\"b", "c", .hit⟩] empty).snapshot ≠
        (after [.record ⟨"a", "b\", tier=\"c", .hit⟩] empty).snapshot ∧
      (after [.record ⟨"a\", tier=\"b", "c", .hit⟩] empty).render =
        (after [.record ⟨"a", "b\", tier=\"c", .hit⟩] empty).render ∧
      report? (after [.record ⟨"a\"b", "l1", .hit⟩] empty).render = none := by
  simp only [snapshot_once, render_once]
  exact ⟨by decide, by decide, by decide⟩

end Metrics

-- The names that a configuration may give are plain, so what is counted under them is read back.
theorem Config.sound_name_plain (name : String) (sound : Config.SoundName name) : Exposition.Plain name := by
  intro c member
  have part := sound.characters c member
  refine ⟨?_, ?_, ?_⟩
  · rintro rfl
    cases part
  · rintro rfl
    cases part
  · rintro rfl
    cases part

end CacheTiers
