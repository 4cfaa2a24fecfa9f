import CacheTiers.Proofs.Job.Run
import CacheTiers.Proofs.Metrics.Growth
import CacheTiers.Proofs.Resolve.Coherence

namespace CacheTiers

variable {W K V R E : Type}

namespace Call

-- What is left to do once a suspending resolution has ended: what was counted is changed, and the work that was
-- dispatched is run.
def settleEnded (ends : Metrics → Metrics) :
    Option (Resolve.Outcome W K V R E) × Context W → Option (Except (Failure E) R) × Context W
  | (some outcome, context) =>
    (some outcome.result, Resolve.settleDispatched outcome.dispatched { context with metrics := ends context.metrics })
  | (none, context) => (none, context)

-- A call whose resolution ends with some change of what was counted: timed where it goes through the operation, and left
-- alone where it does not.
def runEnding (ends : Metrics → Metrics) (operation : Operation (Tier W K V)) (form : ResultForm V R)
    (context : Context W) : Call W K R E → Option (Except (Failure E) R) × Context W
  | blocking key origin _ =>
    let (result, context) := Resolve.blocking operation.name form key operation.tiers origin context
    (some result, { context with metrics := ends context.metrics })
  | suspending key current origin _ polls =>
    settleEnded ends (Job.runUntil polls (Resolve.suspending operation.name form key operation.tiers
      operation.backfillRuntime current origin) context)

def timer (operation : String) : Call W K R E → Timer
  | blocking _ _ _ => ⟨operation, Mode.sync.text⟩
  | suspending _ _ _ _ _ => ⟨operation, Mode.async.text⟩

def times (operation : String) (call : Call W K R E) (metrics : Metrics) : Metrics :=
  metrics.recordDuration (call.timer operation) (match call with
    | blocking _ _ elapsed => elapsed
    | suspending _ _ _ elapsed _ => elapsed)

theorem run_eq_ending (operation : Operation (Tier W K V)) (form : ResultForm V R) (call : Call W K R E)
    (context : Context W) :
    call.run operation form context = call.runEnding (call.times operation.name) operation form context := by
  cases call with
  | blocking key origin elapsed => rfl
  | suspending key current origin elapsed polls =>
      cases polls with
      | none =>
          simp only [run, runEnding, Job.runUntil, Operation.resolveAsync, Job.run_bind, Job.run_modify, Job.run_pure]
          rfl
      | some polls =>
          simp only [run, runEnding, Job.runUntil, Operation.resolveAsync, Job.run_for_then]
          rcases Job.runFor polls (Resolve.suspending operation.name form key operation.tiers operation.backfillRuntime current
            origin) context with ⟨outcome, after⟩
          cases outcome with
          | none => rfl
          | some outcome => rfl

def ends (through : Bool) (operation : String) (call : Call W K R E) : Metrics → Metrics :=
  if through then call.times operation else id

theorem ends_grows (through : Bool) (operation : String) (call : Call W K R E) (metrics : Metrics) :
    Metrics.Grows [] (if through then [call.timer operation] else []) metrics (call.ends through operation metrics) := by
  cases through with
  | true => exact Metrics.record_duration_grows metrics _ _
  | false => exact Metrics.grows_refl metrics

end Call

end CacheTiers
