import CacheTiers.Decimal.Shortest
import CacheTiers.Metrics.Basic
import CacheTiers.Text.Lines

namespace CacheTiers

structure Sample where
  metric : String
  labels : List (String × String)
  value : String
deriving DecidableEq, Repr

def Sample.label (label : String × String) : String := label.1 ++ "=\"" ++ label.2 ++ "\""

def Sample.line (sample : Sample) : String :=
  sample.metric ++ "\x7b" ++ ", ".intercalate (sample.labels.map label) ++ "\x7d " ++ sample.value

namespace Metrics

def eventMetric : String := "oxtier_events_total"

def secondsMetric : String := "oxtier_resolve_duration_seconds_sum"

def durationsMetric : String := "oxtier_resolve_duration_seconds_count"

def eventSample (entry : Counter × Nat) : Sample where
  metric := eventMetric
  labels := [("operation", entry.1.operation), ("tier", entry.1.tier), ("event", entry.1.event.text)]
  value := toString entry.2

def timerSamples (seconds : Float → String) (entry : Timer × Total) : List Sample :=
  let labels := [("operation", entry.1.operation), ("mode", entry.1.mode)]
  [⟨secondsMetric, labels, seconds entry.2.seconds⟩, ⟨durationsMetric, labels, toString entry.2.count⟩]

def samples (seconds : Float → String) (metrics : Metrics) : List Sample :=
  metrics.snapshot.map eventSample ++ metrics.timings.flatMap (timerSamples seconds)

-- The text form: the line of every sample with its end; `seconds` writes the sums of durations.
def textWith (seconds : Float → String) (metrics : Metrics) : String :=
  String.join ((metrics.samples seconds).map fun sample => sample.line ++ "\n")

def render (metrics : Metrics) : String := metrics.textWith Decimal.ofFloat

-- The lines of the text form without the sums of durations, which differ from run to run. A name that holds the end
-- of a line splits the lines of its samples.
def untimedLines (metrics : Metrics) : List String := Text.lines (metrics.textWith fun _ => "T")

end Metrics

end CacheTiers
