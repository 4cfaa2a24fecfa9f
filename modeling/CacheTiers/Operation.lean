import CacheTiers.Key.Builder
import CacheTiers.Resolve.Suspending

namespace CacheTiers

structure Operation (T : Type) where
  name : String
  tiers : List T
  keyParams : List String
  shape : Shape
  backfillRuntime : Bool
deriving DecidableEq, Repr

structure Draft (T : Type) where
  name : String
  tiers : List T
  keyParams : List String
  shape : Option Shape
  backfillRuntime : Bool

namespace Draft

variable {T : Type}

def new (name : String) : Draft T := ⟨name, [], [], none, false⟩

def addTier (draft : Draft T) (tier : T) : Draft T := { draft with tiers := draft.tiers ++ [tier] }

def withKeyParams (draft : Draft T) (params : List String) : Draft T := { draft with keyParams := params }

def withShape (draft : Draft T) (shape : Shape) : Draft T := { draft with shape := some shape }

def withBackfillRuntime (draft : Draft T) : Draft T := { draft with backfillRuntime := true }

def firstRepeated? (seen : List String) : List String → Option String
  | [] => none
  | name :: rest => if name ∈ seen then some name else firstRepeated? (name :: seen) rest

-- Builds the operation for results of shape `actual`. The first check that fails gives the error: tiers present, tier
-- names different, key parameters sound, declared shape fitting.
def build (nameOf : T → String) (actual : Shape) (draft : Draft T) : Except CacheError (Operation T) :=
  if draft.tiers.isEmpty then .error (.config (.noTiers draft.name))
  else match firstRepeated? [] (draft.tiers.map nameOf) with
    | some tier => .error (.config (.repeatedTier draft.name tier))
    | none => match Key.checkParams draft.keyParams with
      | .error fault => .error (.config (.keyParams draft.name fault))
      | .ok () =>
        let shape := draft.shape.getD actual
        if shape.accepts actual then
          .ok ⟨draft.name, draft.tiers, draft.keyParams, shape, draft.backfillRuntime⟩
        else .error (.shapeMismatch draft.name shape.text actual.text)

end Draft

namespace Operation

variable {T W K V R E : Type}

def map {S : Type} (f : T → S) (operation : Operation T) : Operation S :=
  { operation with tiers := operation.tiers.map f }

def describe (nameOf : T → String) (operation : Operation T) : String :=
  s!"CacheOperation \x7b name: {Text.quote operation.name}, "
    ++ s!"tiers: {Text.quoteList (operation.tiers.map nameOf)}, "
    ++ s!"key_params: {Text.quoteList operation.keyParams}, shape: {operation.shape.title} \x7d"

def keyBuilder (operation : Operation T) (arity : Nat) : Except CacheError (Key.Builder arity) :=
  Key.Builder.new arity operation.keyParams

def resolve (operation : Operation (Tier W K V)) (form : ResultForm V R) (key : K)
    (origin : W → Except (Failure E) R × W) (elapsed : Float) (context : Context W) :
    Except (Failure E) R × Context W :=
  let (result, context) := Resolve.blocking operation.name form key operation.tiers origin context
  (result, { context with
    metrics := context.metrics.recordDuration ⟨operation.name, Mode.sync.text⟩ elapsed })

-- Suspending resolution, timed once it ends. `current` says whether the caller runs on a runtime.
def resolveAsync (operation : Operation (Tier W K V)) (form : ResultForm V R) (key : K) (current : Bool)
    (origin : Job W (Except (Failure E) R)) (elapsed : Float) :
    Job (Context W) (Resolve.Outcome W K V R E) := do
  let outcome ← Resolve.suspending operation.name form key operation.tiers operation.backfillRuntime
    current origin
  Job.modify fun context => { context with
    metrics := context.metrics.recordDuration ⟨operation.name, Mode.async.text⟩ elapsed }
  return outcome

end Operation

end CacheTiers
