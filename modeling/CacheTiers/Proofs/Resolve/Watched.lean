import CacheTiers.Proofs.Resolve.Ending
import CacheTiers.Proofs.Resolve.InStep

/-!
Watched resolutions. Beside the world of the tiers a trail is kept of what is asked of each tier, by its place in the
stack, and of the origin: one entry when it begins and one when it has ended. Of a tier that computes a value where it is
absent, the read, the question to the origin and the write of what it is told are shown. Watching changes nothing: the
results and the worlds are those of the resolution that nobody watches, also where it is dropped.
-/
namespace CacheTiers

variable {W U K V R E A B : Type}

inductive Act (V A : Type) where
  | reads (place : Nat)
  | read (place : Nat) (answer : Lookup V)
  | writes (place : Nat) (value : V)
  | wrote (place : Nat) (answer : Except CacheError Unit)
  | asks
  | gave (answer : A)

structure Watched (W V A : Type) where
  world : W
  trail : List (Act V A)

namespace Watched

def act (begins : Act V A) (ends : B → Act V A) (action : W → B × W) (watched : Watched W V A) : B × Watched W V A :=
  let (answer, world) := action watched.world
  (answer, ⟨world, watched.trail ++ [begins, ends answer]⟩)

-- What a tier goes on with once the origin has ended: with a value it writes, else it does nothing that shows.
def resumed (place : Nat) (resume : Lookup V → W → Lookup V × W) (told : Lookup V) (watched : Watched W V A) :
    Lookup V × Watched W V A :=
  match told with
  | .ok (some value) =>
    watched.act (.writes place value) (fun answer => .wrote place (answer.map fun _ => ())) (resume (.ok (some value)))
  | told =>
    let (answer, world) := resume told watched.world
    (answer, { watched with world })

def Erases (watched : Watched W V A) (world : W) : Prop := watched.world = world

end Watched

def Poll.watched (ends : B → Act V A) : Poll W B → List (Act V A) → Poll (Watched W V A) B
  | .ready answer world, trail => .ready answer ⟨world, trail ++ [ends answer]⟩
  | .pending rest world, trail =>
    .pending (fun later => (rest later.world).watched ends later.trail) ⟨world, trail⟩

def Job.watched (begins : Act V A) (ends : B → Act V A) (job : Job W B) : Job (Watched W V A) B := fun watched =>
  (job watched.world).watched ends (watched.trail ++ [begins])

-- Where a tier computes with a look and a write, these are the entries that the two make: `Tier.usual_watched`,
-- `Resolve.computes_watched`.
def Consult.watched (place : Nat) : Consult W V → List (Act V A) → Consult (Watched W V A) V
  | .answer outcome world, trail => .answer outcome ⟨world, trail ++ [.reads place, .read place outcome]⟩
  | .ask resume world, trail =>
    .ask (Watched.resumed place resume) ⟨world, trail ++ [.reads place, .read place (.ok none)]⟩

def Tier.watched (place : Nat) (tier : Tier W K V) : Tier (Watched W V A) K V where
  name := tier.name
  get := fun key => Watched.act (.reads place) (.read place) (tier.get key)
  put := fun key value => Watched.act (.writes place value) (.wrote place) (tier.put key value)
  computeIfAbsent := fun key watched => (tier.computeIfAbsent key watched.world).watched place watched.trail
  getAsync := fun key => (tier.getAsync key).watched (.reads place) (.read place)
  putAsync := fun key value => (tier.putAsync key value).watched (.writes place value) (.wrote place)

namespace Resolve

def watchedFrom (place : Nat) : List (Tier W K V) → List (Tier (Watched W V A) K V)
  | [] => []
  | tier :: rest => tier.watched place :: watchedFrom (place + 1) rest

end Resolve

def Operation.watched (operation : Operation (Tier W K V)) : Operation (Tier (Watched W V A) K V) :=
  { operation with tiers := Resolve.watchedFrom 0 operation.tiers }

def Call.watched : Call W K R E → Call (Watched W V (Except (Failure E) R)) K R E
  | .blocking key origin elapsed => .blocking key (Watched.act .asks .gave origin) elapsed
  | .suspending key current origin elapsed polls => .suspending key current (origin.watched .asks .gave) elapsed polls

theorem Watched.on_world_act (begins : Act V A) (ends : B → Act V A) (action : W → B × W)
    (context : Context (Watched W V A)) :
    context.onWorld (Watched.act begins ends action) =
      ((action context.world.world).1,
        ⟨⟨(action context.world.world).2, context.world.trail ++ [begins, ends (action context.world.world).1]⟩,
          context.metrics⟩) := rfl

theorem Job.watched_abides {rely guar : W → W → Prop} {post : B → W → Prop} (begins : Act V A) (ends : B → Act V A)
    (job : Job W B) (watched : Watched W V A) (abides : Poll.Abides rely guar post watched.world (job watched.world)) :
    Poll.Abides (InvImage rely Watched.world) (InvImage guar Watched.world) (fun answer now => post answer now.world) watched
      (job.watched begins ends watched) := by
  have onward (poll : Poll W B) (trail : List (Act V A)) (first : Watched W V A)
      (abides : Poll.Abides rely guar post first.world poll) :
      Poll.Abides (InvImage rely Watched.world) (InvImage guar Watched.world) (fun answer now => post answer now.world) first
        (poll.watched ends trail) := by
    induction poll generalizing trail first with
    | ready answer world => exact abides
    | pending rest world ih =>
        refine ⟨abides.1, ?_⟩
        intro later relied
        exact ih later.world later.trail later (abides.2 later.world relied)
  exact onward (job watched.world) _ watched abides

theorem Resolve.mem_watched_from (place : Nat) (tiers : List (Tier W K V)) :
    ∀ tier ∈ (Resolve.watchedFrom place tiers : List (Tier (Watched W V A) K V)),
      ∃ spot, ∃ original ∈ tiers, tier = original.watched spot := by
  induction tiers generalizing place with
  | nil => exact List.forall_mem_nil _
  | cons first rest ih =>
      refine List.forall_mem_cons.mpr ⟨⟨place, first, List.mem_cons_self, rfl⟩, ?_⟩
      intro tier member
      obtain ⟨spot, original, among, same⟩ := ih (place + 1) tier member
      exact ⟨spot, original, List.mem_cons_of_mem first among, same⟩

theorem Job.run_watched (begins : Act V A) (ends : B → Act V A) (job : Job W B) (watched : Watched W V A) :
    (job.watched begins ends).run watched =
      ((job.run watched.world).1, ⟨(job.run watched.world).2, watched.trail ++ [begins, ends (job.run watched.world).1]⟩) := by
  have onward (poll : Poll W B) (trail : List (Act V A)) :
      (poll.watched ends trail).finish = (poll.finish.1, ⟨poll.finish.2, trail ++ [ends poll.finish.1]⟩) := by
    induction poll with
    | ready answer world => rfl
    | pending rest world ih => exact ih world
  rw [run, Job.watched, onward]
  simp [run]

theorem Tier.usual_watched (place : Nat) (get : K → W → Lookup V × W) (put : K → V → W → Except CacheError Unit × W)
    (key : K) (watched : Watched W V A) :
    (Tier.getThenPut get put key watched.world).watched place watched.trail =
      Tier.getThenPut (fun key => Watched.act (.reads place) (.read place) (get key))
        (fun key value => Watched.act (.writes place value) (.wrote place) (put key value)) key watched := by
  have kept : Watched.resumed (A := A) place (Tier.keep put key) =
      Tier.keep (fun key value => Watched.act (.writes place value) (.wrote place) (put key value)) key := by
    funext told later
    cases told with
    | error error => rfl
    | ok found =>
        cases found with
        | none => rfl
        | some value =>
            simp only [Watched.resumed, Watched.act, Tier.keep]
            rcases put key value later.world with ⟨answer, world⟩
            cases answer with
            | error error => rfl
            | ok done => rfl
  simp only [Tier.getThenPut, Watched.act]
  rcases get key watched.world with ⟨answer, world⟩
  cases answer with
  | error error => rfl
  | ok found =>
      cases found with
      | some value => rfl
      | none => simp only [Consult.watched, kept]

section Erasure

theorem Watched.act_erases (begins : Act V A) (ends : B → Act V A) (action : W → B × W) (watched : Watched W V A)
    (world : W)
    (same : watched.Erases world) : Alike Watched.Erases Eq (watched.act begins ends action) (action world) := by
  obtain rfl := same
  exact ⟨rfl, rfl⟩

theorem Watched.resumed_erases (place : Nat) (resume : Lookup V → W → Lookup V × W) (told : Lookup V)
    (watched : Watched W V A) (world : W) (same : watched.Erases world) :
    Alike Watched.Erases Eq (Watched.resumed place resume told watched) (resume told world) := by
  obtain rfl := same
  cases told with
  | error error => exact ⟨rfl, rfl⟩
  | ok found =>
      cases found with
      | none => exact ⟨rfl, rfl⟩
      | some value => exact ⟨rfl, rfl⟩

theorem Poll.watched_erases (ends : B → Act V A) (poll : Poll W B) (trail : List (Act V A)) :
    (poll.watched ends trail).InStep Watched.Erases Eq poll := by
  induction poll generalizing trail with
  | ready answer world => exact ⟨rfl, rfl⟩
  | pending rest world ih =>
      refine ⟨rfl, ?_⟩
      intro later world same
      obtain rfl := same
      exact ih later.world later.trail

theorem Job.watched_erases (begins : Act V A) (ends : B → Act V A) (job : Job W B) :
    Job.InStep Watched.Erases Eq (job.watched begins ends) job := by
  intro watched world same
  obtain rfl := same
  exact Poll.watched_erases ends (job watched.world) (watched.trail ++ [begins])

theorem Tier.watched_erases (place : Nat) (tier : Tier W K V) :
    (tier.watched place : Tier (Watched W V A) K V).InStep Watched.Erases tier where
  get := fun key => Watched.act_erases (.reads place) (.read place) (tier.get key)
  put := fun key value => Watched.act_erases (.writes place value) (.wrote place) (tier.put key value)
  compute := by
    intro key watched world same
    obtain rfl := same
    simp only [Tier.watched]
    cases tier.computeIfAbsent key watched.world with
    | answer outcome world => exact ⟨rfl, rfl⟩
    | ask resume world => exact ⟨rfl, fun told => Watched.resumed_erases place resume told⟩
  getAsync := fun key => Job.watched_erases (.reads place) (.read place) (tier.getAsync key)
  putAsync := fun key value => Job.watched_erases (.writes place value) (.wrote place) (tier.putAsync key value)

theorem Resolve.watched_from_erases (place : Nat) (tiers : List (Tier W K V)) :
    Resolve.Twins (Watched.Erases (A := A)) Eq (Resolve.watchedFrom place tiers) tiers := by
  induction tiers generalizing place with
  | nil => exact .nil
  | cons tier rest ih => exact .cons ⟨tier.watched_erases place, rfl⟩ (ih (place + 1))

theorem Resolve.blocking_watched (operation : String) (form : ResultForm V R) (key : K) (tiers : List (Tier W K V))
    (origin : W → Except (Failure E) R × W) (context : Context W) (trail : List (Act V (Except (Failure E) R))) :
    let watched := Resolve.blocking operation form key (Resolve.watchedFrom 0 tiers) (Watched.act .asks .gave origin)
      ⟨⟨context.world, trail⟩, context.metrics⟩
    let plain := Resolve.blocking operation form key tiers origin context
    watched.1 = plain.1 ∧ watched.2.world.world = plain.2.world ∧ watched.2.metrics = plain.2.metrics :=
  Resolve.blocking_alike Metrics.same_tallies operation form key _ _ _ origin _ context (Resolve.watched_from_erases 0 tiers)
    (Watched.act_erases .asks .gave origin) ⟨rfl, rfl⟩

theorem Resolve.suspending_watched (operation : String) (form : ResultForm V R) (key : K) (tiers : List (Tier W K V))
    (handle current : Bool) (origin : Job W (Except (Failure E) R)) (context : Context W)
    (trail : List (Act V (Except (Failure E) R))) :
    let watched := (Resolve.suspending operation form key (Resolve.watchedFrom 0 tiers) handle current
      (origin.watched .asks .gave)).run ⟨⟨context.world, trail⟩, context.metrics⟩
    let plain := (Resolve.suspending operation form key tiers handle current origin).run context
    Resolve.OutcomeMatched Watched.Erases Eq watched.1 plain.1 ∧ watched.2.world.world = plain.2.world ∧
      watched.2.metrics = plain.2.metrics :=
  Job.run_in_step _ _ _ context (Resolve.suspending_in_step Metrics.same_tallies operation form key _ _ handle current _ origin
    (Resolve.watched_from_erases 0 tiers) (Job.watched_erases .asks .gave origin)) ⟨rfl, rfl⟩

theorem Call.settle_ended_alike {rel : W → U → Prop} (ends : Metrics → Metrics)
    {first : Option (Resolve.Outcome W K V R E) × Context W} {second : Option (Resolve.Outcome U K V R E) × Context U}
    (ended : Alike (Context.Matched rel Eq) (Option.Rel (Resolve.OutcomeMatched rel Eq)) first second) :
    Alike (Context.Matched rel Eq) Eq (Call.settleEnded ends first) (Call.settleEnded ends second) := by
  obtain ⟨outcome, after⟩ := first
  obtain ⟨other, beside⟩ := second
  obtain ⟨answers, still⟩ := ended
  dsimp only at answers still
  cases answers with
  | none => exact ⟨rfl, still⟩
  | some settled => exact ⟨congrArg some settled.1, settled.2 _ _ ⟨still.1, congrArg ends still.2⟩⟩

theorem Call.run_ending_watched (ends : Metrics → Metrics) (operation : Operation (Tier W K V)) (form : ResultForm V R)
    (call : Call W K R E) (context : Context W) (trail : List (Act V (Except (Failure E) R))) :
    let ran := call.watched.runEnding ends operation.watched form ⟨⟨context.world, trail⟩, context.metrics⟩
    let plain := call.runEnding ends operation form context
    ran.1 = plain.1 ∧ ran.2.world.world = plain.2.world ∧ ran.2.metrics = plain.2.metrics := by
  have matched : Context.Matched Watched.Erases Eq
      (⟨⟨context.world, trail⟩, context.metrics⟩ : Context (Watched W V (Except (Failure E) R))) context := ⟨rfl, rfl⟩
  have stack := Resolve.watched_from_erases (A := Except (Failure E) R) 0 operation.tiers
  cases call with
  | blocking key origin elapsed =>
      have ended := Resolve.blocking_alike Metrics.same_tallies operation.name form key _ _ _ origin _ context stack
        (Watched.act_erases .asks .gave origin) matched
      exact ⟨congrArg some ended.1, ended.2.1, congrArg ends ended.2.2⟩
  | suspending key current origin elapsed polls =>
      have together := Resolve.suspending_in_step Metrics.same_tallies operation.name form key _ _
        operation.backfillRuntime current _ origin stack (Job.watched_erases .asks .gave origin)
      exact Call.settle_ended_alike ends (Job.run_until_in_step polls _ _ _ context together matched)

theorem Call.run_ending_reached (ends : Metrics → Metrics) (operation : Operation (Tier W K V)) (form : ResultForm V R)
    (key : K) (current : Bool) (origin : Job W (Except (Failure E) R)) (elapsed : Float) (polls : Option Nat)
    (start : Context (Watched W V (Except (Failure E) R))) :
    let ran := (Call.suspending key current origin elapsed polls).watched.runEnding ends operation.watched form start
    ran.1 ≠ none →
      ∃ outcome after, (Resolve.suspending operation.name form key (Resolve.watchedFrom 0 operation.tiers)
          operation.backfillRuntime current (origin.watched .asks .gave)).run start = (outcome, after) ∧
        ran = Call.settleEnded ends (some outcome, after) := by
  intro ran ended
  rcases reached : Job.runUntil polls (Resolve.suspending operation.name form key (Resolve.watchedFrom 0 operation.tiers)
    operation.backfillRuntime current (origin.watched .asks .gave)) start with ⟨outcome, after⟩
  have settled : ran = Call.settleEnded ends (outcome, after) := congrArg (Call.settleEnded ends) reached
  cases outcome with
  | none => exact absurd (congrArg Prod.fst settled) ended
  | some outcome => exact ⟨outcome, after, Job.run_of_run_until polls _ _ after outcome reached, settled⟩

theorem Call.run_watched (operation : Operation (Tier W K V)) (form : ResultForm V R) (call : Call W K R E)
    (context : Context W) (trail : List (Act V (Except (Failure E) R))) :
    let ran := call.watched.run operation.watched form ⟨⟨context.world, trail⟩, context.metrics⟩
    ran.1 = (call.run operation form context).1 ∧ ran.2.world.world = (call.run operation form context).2.world := by
  intro ran
  have timed : ran = call.watched.runEnding (call.times operation.name) operation.watched form
      ⟨⟨context.world, trail⟩, context.metrics⟩ := by
    cases call with
    | blocking key origin elapsed => exact Call.run_eq_ending _ form _ _
    | suspending key current origin elapsed polls => exact Call.run_eq_ending _ form _ _
  rw [timed, Call.run_eq_ending]
  have ended := call.run_ending_watched (call.times operation.name) operation form context trail
  exact ⟨ended.1, ended.2.1⟩

end Erasure

end CacheTiers
