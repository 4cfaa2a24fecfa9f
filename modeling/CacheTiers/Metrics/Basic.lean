import CacheTiers.Table

namespace CacheTiers

inductive Event where
  | hit
  | miss
  | backfill
  | backfillError
  | store
  | call
deriving DecidableEq, Repr

def Event.text : Event → String
  | hit => "hit"
  | miss => "miss"
  | backfill => "backfill"
  | backfillError => "backfill_error"
  | store => "store"
  | call => "call"

def Event.all : List Event := [backfill, backfillError, call, hit, miss, store]

def Event.ofText? (text : String) : Option Event := Event.all.find? fun event => event.text = text

inductive Mode where
  | sync
  | async
deriving DecidableEq, Repr

def Mode.text : Mode → String
  | sync => "sync"
  | async => "async"

structure Counter where
  operation : String
  tier : String
  event : Event
deriving DecidableEq, Repr

def originName : String := "origin"

def Counter.origin (operation : String) : Counter := ⟨operation, originName, .call⟩

structure Timer where
  operation : String
  mode : String
deriving DecidableEq, Repr

structure Total where
  seconds : Float
  count : Nat

structure Metrics where
  enabled : Bool
  counts : Table Counter Nat
  totals : Table Timer Total

namespace Metrics

def empty : Metrics := ⟨true, .empty, .empty⟩

instance : Inhabited Metrics := ⟨empty⟩

def count (metrics : Metrics) (counter : Counter) : Nat := (metrics.counts.find? counter).getD 0

def record (metrics : Metrics) (counter : Counter) : Metrics :=
  if metrics.enabled then
    { metrics with counts := metrics.counts.insert counter (metrics.count counter + 1) }
  else metrics

def recordOrigin (metrics : Metrics) (operation : String) : Metrics :=
  metrics.record (.origin operation)

def recordDuration (metrics : Metrics) (timer : Timer) (seconds : Float) : Metrics :=
  if metrics.enabled then
    let total := (metrics.totals.find? timer).getD ⟨0, 0⟩
    { metrics with totals := metrics.totals.insert timer ⟨total.seconds + seconds, total.count + 1⟩ }
  else metrics

def setEnabled (metrics : Metrics) (on : Bool) : Metrics := { metrics with enabled := on }

def reset (metrics : Metrics) : Metrics := { empty with enabled := metrics.enabled }

def before (a b : Counter) : Bool :=
  if a.operation = b.operation then
    if a.tier = b.tier then a.event.text ≤ b.event.text else a.tier < b.tier
  else a.operation < b.operation

def timerBefore (a b : Timer) : Bool :=
  if a.operation = b.operation then a.mode ≤ b.mode else a.operation < b.operation

def snapshot (metrics : Metrics) : List (Counter × Nat) :=
  metrics.counts.entries.mergeSort fun a b => before a.1 b.1

def timings (metrics : Metrics) : List (Timer × Total) :=
  metrics.totals.entries.mergeSort fun a b => timerBefore a.1 b.1

end Metrics

end CacheTiers
