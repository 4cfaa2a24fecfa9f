import CacheTiers.Job.Group
import CacheTiers.Resolve.Blocking

namespace CacheTiers.Resolve

variable {W K V R E : Type}

structure Backfill (W K V : Type) where
  operation : String
  targets : List (Tier W K V)
  key : K
  value : V

def settle (operation : String) (onSuccess : Event) (onFailure : Option Event) :
    List (Tier W K V × Except CacheError Unit) → Context W → Context W
  | [], context => context
  | (tier, .ok ()) :: rest, context =>
    settle operation onSuccess onFailure rest (context.record operation tier.name onSuccess)
  | (tier, .error _) :: rest, context =>
    settle operation onSuccess onFailure rest
      (match onFailure with
      | some event => context.record operation tier.name event
      | none => context)

def firstError? : List (Except CacheError Unit) → Option CacheError
  | [] => none
  | .ok () :: rest => firstError? rest
  | .error error :: _ => some error

-- Writes a value to all tiers side by side, and counts the outcomes once every write has ended.
def writeAll (operation : String) (onSuccess : Event) (onFailure : Option Event) (key : K) (value : V)
    (tiers : List (Tier W K V)) : Job (Context W) (List (Except CacheError Unit)) := do
  let written ← Job.all (tiers.map fun tier => (tier.putAsync key value).onWorld)
  Job.modify (settle operation onSuccess onFailure (tiers.zip written))
  return written

def Backfill.job (backfill : Backfill W K V) : Job (Context W) Unit := do
  let _ ← writeAll backfill.operation .backfill (some .backfillError) backfill.key backfill.value
    backfill.targets
  return ()

def settleDispatched (dispatched : Option (Backfill W K V)) (context : Context W) : Context W :=
  match dispatched with
  | some backfill => (backfill.job.run context).2
  | none => context

-- Dispatches a backfill if there is a runtime to run it on, given (`handle`) or current; else counts a failed
-- backfill for every target.
def dispatch (handle current : Bool) (backfill : Backfill W K V) (context : Context W) :
    Option (Backfill W K V) × Context W :=
  if handle || current then (some backfill, context)
  else
    (none, backfill.targets.foldl
      (fun context tier => context.record backfill.operation tier.name .backfillError) context)

def searchAsync (operation : String) (key : K) (nearer : List (Tier W K V)) :
    List (Tier W K V) → Job (Context W) (Except CacheError (Found W K V))
  | [] => return .ok .miss
  | tier :: rest => do
    match ← (tier.getAsync key).onWorld with
    | .error error => return .error error
    | .ok (some value) =>
      Job.modify (Context.record operation tier.name .hit)
      return .ok (.hit nearer value)
    | .ok none =>
      Job.modify (Context.record operation tier.name .miss)
      searchAsync operation key (nearer ++ [tier]) rest

structure Outcome (W K V R E : Type) where
  result : Except (Failure E) R
  dispatched : Option (Backfill W K V)

def Outcome.only (result : Except (Failure E) R) : Outcome W K V R E := ⟨result, none⟩

def answerHit (handle current : Bool) (form : ResultForm V R) (backfill : Backfill W K V) :
    Context W → Outcome W K V R E × Context W := fun context =>
  if backfill.targets.isEmpty then (.only (.ok (form.ofValue backfill.value)), context)
  else
    let (dispatched, context) := dispatch handle current backfill context
    (⟨.ok (form.ofValue backfill.value), dispatched⟩, context)

def suspending (operation : String) (form : ResultForm V R) (key : K) (tiers : List (Tier W K V))
    (handle current : Bool) (origin : Job W (Except (Failure E) R)) :
    Job (Context W) (Outcome W K V R E) := do
  if tiers.isEmpty then return .only (.error (noTiers operation))
  match ← searchAsync operation key [] tiers with
  | .error error => return .only (.error (.cache error))
  | .ok (.hit nearer value) => Job.act (answerHit handle current form ⟨operation, nearer, key, value⟩)
  | .ok .miss =>
    Job.modify (Context.recordOrigin operation)
    match ← origin.onWorld with
    | .error failure => return .only (.error failure)
    | .ok result =>
      match form.toValue? result with
      | none => return .only (absentResult form operation)
      | some value =>
        let written ← writeAll operation .store none key value tiers
        match firstError? written with
        | some error => return .only (.error (.cache error))
        | none => return .only (.ok (form.ofValue value))

end CacheTiers.Resolve
