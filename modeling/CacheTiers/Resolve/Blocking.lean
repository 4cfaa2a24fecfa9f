import CacheTiers.Resolve.Context

namespace CacheTiers.Resolve

variable {W K V R E : Type}

def absentResult (form : ResultForm V R) (operation : String) : Except (Failure E) R :=
  match form.absent? with
  | some result => .ok result
  | none => .error (.cache (.absentValue operation))

def noTiers (operation : String) : Failure E := .cache (.config (.noTiers operation))

inductive Found (W K V : Type) where
  | hit (nearer : List (Tier W K V)) (value : V)
  | miss

def search (operation : String) (key : K) (nearer : List (Tier W K V)) :
    List (Tier W K V) → Context W → Except CacheError (Found W K V) × Context W
  | [], context => (.ok .miss, context)
  | tier :: rest, context =>
    match context.onWorld (tier.get key) with
    | (.error error, context) => (.error error, context)
    | (.ok (some value), context) =>
      (.ok (.hit nearer value), context.record operation tier.name .hit)
    | (.ok none, context) =>
      search operation key (nearer ++ [tier]) rest (context.record operation tier.name .miss)

-- Writes a value to tiers in order up to the first that fails, counting `event` for each success.
def fill (operation : String) (event : Event) (key : K) (value : V) :
    List (Tier W K V) → Context W → Except CacheError Unit × Context W
  | [], context => (.ok (), context)
  | tier :: rest, context =>
    match context.onWorld (tier.put key value) with
    | (.error error, context) => (.error error, context)
    | (.ok (), context) =>
      fill operation event key value rest (context.record operation tier.name event)

def afterFill (form : ResultForm V R) (value : V) :
    Except CacheError Unit × Context W → Except (Failure E) R × Context W
  | (.ok (), context) => (.ok (form.ofValue value), context)
  | (.error error, context) => (.error (.cache error), context)

def throughTiers (operation : String) (form : ResultForm V R) (key : K) (tiers : List (Tier W K V))
    (origin : W → Except (Failure E) R × W) (context : Context W) : Except (Failure E) R × Context W :=
  match search operation key [] tiers context with
  | (.error error, context) => (.error (.cache error), context)
  | (.ok (.hit nearer value), context) =>
    afterFill form value (fill operation .backfill key value nearer context)
  | (.ok .miss, context) =>
    match (context.recordOrigin operation).onWorld origin with
    | (.error failure, context) => (.error failure, context)
    | (.ok result, context) =>
      match form.toValue? result with
      | some value => afterFill form value (fill operation .store key value tiers context)
      | none => (absentResult form operation, context)

def afterConsult (operation tier : String) (form : ResultForm V R) (event : Event) (value : Option V)
    (context : Context W) : Except (Failure E) R × Context W :=
  match value with
  | some value => (.ok (form.ofValue value), context.record operation tier event)
  | none => (absentResult form operation, context.record operation tier .miss)

-- Resolution over one tier, which consults the origin itself. It is told that the value is absent where the origin
-- fails; its own error goes before the origin's.
def throughOne (operation : String) (form : ResultForm V R) (key : K) (tier : Tier W K V)
    (origin : W → Except (Failure E) R × W) (context : Context W) : Except (Failure E) R × Context W :=
  match tier.computeIfAbsent key context.world with
  | .answer (.error error) world => (.error (.cache error), { context with world })
  | .answer (.ok value) world =>
    afterConsult operation tier.name form .hit value { context with world }
  | .ask resume world =>
    match ({ context with world }.recordOrigin operation).onWorld origin with
    | (.error failure, context) =>
      match context.onWorld (resume (.ok none)) with
      | (.error error, context) => (.error (.cache error), context)
      | (.ok _, context) => (.error failure, context)
    | (.ok result, context) =>
      match context.onWorld (resume (.ok (form.toValue? result))) with
      | (.error error, context) => (.error (.cache error), context)
      | (.ok value, context) => afterConsult operation tier.name form .store value context

def blocking (operation : String) (form : ResultForm V R) (key : K) (tiers : List (Tier W K V))
    (origin : W → Except (Failure E) R × W) (context : Context W) : Except (Failure E) R × Context W :=
  match tiers with
  | [] => (.error (noTiers operation), context)
  | [tier] => throughOne operation form key tier origin context
  | _ => throughTiers operation form key tiers origin context

end CacheTiers.Resolve
