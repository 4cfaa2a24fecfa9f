import CacheTiers.Proofs.Resolve.Course

namespace CacheTiers

namespace Cells

variable {ι W K V σ R E : Type} (cells : Cells ι W K V σ)

def noted (operation : String) (onSuccess : Event) (onFailure : Option Event) (key : K) (value : V) (names : List String)
    (places : List ι) (contents : ι → σ) : List Counter :=
  (names.zip (cells.answers key value places contents)).flatMap fun outcome =>
    Resolve.written operation onSuccess onFailure outcome.1 outcome.2

-- How the writes to the tiers nearer than a hit are counted; without a runtime they are all missing.
def notedBehind (runtime : Bool) (operation : String) (key : K) (value : V) (names : List String) (nearer : List ι)
    (contents : ι → σ) : List Counter :=
  if runtime then
    cells.noted operation .backfill (some .backfillError) key value (names.take nearer.length) nearer contents
  else (names.take nearer.length).map fun name => ⟨operation, name, .backfillError⟩

def notedGiven (operation : String) (form : ResultForm V R) (key : K) (names : List String) (places : List ι)
    (given : Except (Failure E) R) (contents : ι → σ) : List Counter :=
  match Resolve.offered form given with
  | some value => cells.noted operation .store none key value names places contents
  | none => []

-- The call that has ended has come to what is told, and has counted what is told, once the work that it dispatched has been
-- run to its end too, from whatever later point.
def Settles (asked : Nat) (before : Context W) (told : Except (Failure E) R × (ι → σ)) (counters : List Counter)
    (ended : Resolve.Outcome W K V R E × Context W) : Prop :=
  ∀ later, cells.Rests ended.2.world later.world →
    let settled := Resolve.settleDispatched ended.1.dispatched later
    cells.Comes asked before.world told (ended.1.result, settled) ∧
      ∀ timers, Metrics.Grows [] timers ended.2.metrics later.metrics →
        Metrics.Grows counters timers before.metrics settled.metrics

theorem only_settles {asked : Nat} {before : Context W} {contents : ι → σ} {counters : List Counter}
    (result : Except (Failure E) R) (now : Context W) (reached : cells.Moves asked before.world contents now.world)
    (grown : Metrics.Grows counters [] before.metrics now.metrics) :
    cells.Settles (K := K) asked before (result, contents) counters (.only result, now) := by
  intro later rests settled
  refine ⟨⟨rfl, cells.moves_rest reached rests⟩, ?_⟩
  intro timers between
  have all := Metrics.grows_trans grown between
  rw [List.append_nil, List.nil_append] at all
  exact all

variable [DecidableEq ι]

def behind (runtime : Bool) (key : K) (value : V) (places : List ι) (contents : ι → σ) : Except CacheError Unit × (ι → σ) :=
  if runtime then cells.detach key value places contents else (.ok (), contents)

theorem behind_runtime : cells.behind true = cells.detach := rfl

theorem behind_nowhere (runtime : Bool) (key : K) (value : V) (contents : ι → σ) :
    cells.behind runtime key value [] contents = (.ok (), contents) := by
  rw [behind, detach_nowhere, ite_self]

def seen (operation : String) (key : K) : List String → List ι → (ι → σ) → List Counter
  | name :: names, place :: rest, contents =>
    match (cells.get place key (contents place)).1 with
    | .error _ => []
    | .ok (some _) => [⟨operation, name, .hit⟩]
    | .ok none => ⟨operation, name, .miss⟩ :: seen operation key names rest (cells.afterGet place key contents)
  | _, _, _ => []

def counted (runtime : Bool) (operation : String) (form : ResultForm V R) (key : K) (names : List String) (places : List ι)
    (given : Except (Failure E) R) (contents : ι → σ) : List Counter :=
  cells.seen operation key names places contents ++
    match cells.search key [] places contents with
    | (.failed _, _) => []
    | (.hit nearer value, contents) => cells.notedBehind runtime operation key value names nearer contents
    | (.missed, contents) => .origin operation :: cells.notedGiven operation form key names places given contents

end Cells

namespace Resolve

variable {ι W K V σ R E : Type} [DecidableEq ι] (cells : Cells ι W K V σ)

theorem search_async_nearer (operation : String) (key : K) (nearer tiers passed : List (Tier W K V)) (value : V)
    (context : Context W) (hit : ((searchAsync operation key nearer tiers).run context).1 = .ok (.hit passed value)) :
    passed <+: nearer ++ tiers := by
  induction tiers generalizing nearer context with
  | nil => cases hit
  | cons tier rest ih =>
      rcases read : (tier.getAsync key).run context.world with ⟨answer, after⟩
      rw [searchAsync, Job.run_bind, Job.run_on_world, read] at hit
      cases answer with
      | error error => cases hit
      | ok found =>
          cases found with
          | some held =>
              cases hit
              exact List.prefix_append _ _
          | none => simpa using ih (nearer ++ [tier]) _ hit

theorem search_async_settles (operation : String) (key : K) (done places : List ι) (nearer tiers : List (Tier W K V))
    (context : Context W) (passed : List.Forall₂ cells.RunsLate done nearer)
    (stack : List.Forall₂ cells.RunsLate places tiers) (valid : cells.valid context.world) :
    let ended := (searchAsync operation key nearer tiers).run context
    let told := cells.search key done places (cells.contents context.world)
    Cells.Follows cells.RunsLate told.1 ended.1 ∧ cells.Moves 0 context.world told.2 ended.2.world ∧
      Metrics.Grows (cells.seen operation key (tiers.map Tier.name) places (cells.contents context.world)) []
        context.metrics ended.2.metrics := by
  induction stack generalizing done nearer context with
  | nil => exact ⟨rfl, cells.moves_refl _ valid, Metrics.grows_refl _⟩
  | @cons place tier places tiers runs stack ih =>
      obtain ⟨answered, moves⟩ := runs.getAsync key context.world valid
      rw [searchAsync, Job.run_bind, Job.run_on_world, Cells.search, List.map_cons, Cells.seen, ← answered]
      rcases read : (tier.getAsync key).run context.world with ⟨answer, after⟩
      rw [read] at moves
      cases answer with
      | error error => exact ⟨rfl, moves, Metrics.grows_refl _⟩
      | ok found =>
          cases found with
          | some value => exact ⟨⟨done, rfl, passed⟩, moves, Metrics.record_grows _ _⟩
          | none =>
              have more : List.Forall₂ cells.RunsLate (done ++ [place]) (nearer ++ [tier]) :=
                List.rel_append passed (.cons runs .nil)
              have rest := ih (done ++ [place]) (nearer ++ [tier])
                (Context.record operation tier.name .miss ⟨after, context.metrics⟩) more moves.valid
              have same : cells.contents (Context.record operation tier.name .miss ⟨after, context.metrics⟩).world =
                  cells.afterGet place key (cells.contents context.world) := moves.contents
              rw [same] at rest
              exact ⟨rest.1, cells.moves_trans moves rest.2.1, Metrics.grows_trans (Metrics.record_grows _ _) rest.2.2⟩

theorem writes_apart (key : K) (value : V) (places : List ι) (tiers : List (Tier W K V)) (context : Context W)
    (stack : List.Forall₂ cells.RunsLate places tiers) (valid : cells.valid context.world) :
    List.Forall₂ (fun place job => ∀ later, (cells.footing key value (cells.contents context.world)).relies place context later →
      Poll.Abides ((cells.footing key value (cells.contents context.world)).relies place)
        ((cells.footing key value (cells.contents context.world)).keeps place)
        ((cells.footing key value (cells.contents context.world)).ends place) later (job later))
      places (tiers.map fun tier => (tier.putAsync key value).onWorld) := by
  refine List.forall₂_map_right_iff.mpr (stack.imp ?_)
  intro place tier runs later relied
  obtain ⟨still, kept⟩ := relied valid
  exact cells.put_writes key value place tier _ later runs still (kept place List.mem_cons_self)

-- Writes that are issued together end as if each were alone: their answers come in the order of the tiers, whichever ends
-- first, and nothing else is written.
theorem write_all_settles (operation : String) (onSuccess : Event) (onFailure : Option Event) (key : K) (value : V)
    (places : List ι) (tiers : List (Tier W K V)) (context : Context W)
    (stack : List.Forall₂ cells.RunsLate places tiers) (apart : places.Nodup) (valid : cells.valid context.world) :
    let ended := (writeAll operation onSuccess onFailure key value tiers).run context
    cells.Comes 0 context.world
      (cells.answers key value places (cells.contents context.world),
        cells.written key value places (cells.contents context.world)) ended ∧
      Metrics.Grows (cells.noted operation onSuccess onFailure key value (tiers.map Tier.name) places
        (cells.contents context.world)) [] context.metrics ended.2.metrics := by
  have standing := cells.footing_apart key value (cells.contents context.world)
  have composes := composes_uncounted cells.composes_lasts
  have together := Turns.abides_apart standing composes places _ context context apart
    (fun place _ before after step => ⟨cells.lasts_of_confined [place] _ _ step.1, step.2⟩)
    (writes_apart cells key value places tiers context stack valid) ((Footing.composes_relied standing places).refl context)
  have polls := Job.all_abides (Footing.composes_relied standing _).refl (Footing.composes_together standing composes _).trans
    together
  have ran := Job.run_abides (Footing.composes_relied standing _).refl (Footing.composes_together standing composes _).trans
    polls
  rw [writeAll, Job.run_bind, Job.run_bind, Job.run_modify, Job.run_pure]
  generalize (Job.all (tiers.map fun tier => (tier.putAsync key value).onWorld)).run context = result at ran
  obtain ⟨answers, after⟩ := result
  obtain ⟨⟨⟨lasts, uncounted⟩, away⟩, each⟩ := ran
  obtain ⟨still, answered, reads⟩ := cells.written_each key value places _ answers after.world (lasts.1 valid) each
  subst answered
  refine ⟨⟨rfl, ?_⟩, ?_⟩
  · rw [settle_world]
    refine ⟨still, ?_, lasts.2⟩
    funext place
    simp only [Cells.written]
    by_cases member : place ∈ places
    · rw [if_pos member]
      exact reads place member
    · rw [if_neg member]
      exact (away place member valid).2 place List.mem_cons_self
  · have grows := settle_grows operation onSuccess onFailure
      (tiers.zip (cells.answers key value places (cells.contents context.world))) after
    rw [uncounted] at grows
    rw [Cells.noted, List.zip_map_left, List.flatMap_map]
    exact grows

theorem answer_hit_settles (handle current : Bool) (form : ResultForm V R) (operation : String) (key : K) (value : V)
    (asked : Nat) (before : Context W) (contents : ι → σ) (counters : List Counter) (names : List String) (nearer : List ι)
    (passed : List (Tier W K V)) (context : Context W) (stack : List.Forall₂ cells.RunsLate nearer passed)
    (apart : nearer.Nodup) (named : passed.map Tier.name <+: names)
    (reached : cells.Moves asked before.world contents context.world)
    (grown : Metrics.Grows counters [] before.metrics context.metrics) :
    cells.Settles (E := E) asked before
      (Cells.finish form value (cells.behind (handle || current) key value nearer contents))
      (counters ++ cells.notedBehind (handle || current) operation key value names nearer contents)
      (answerHit handle current form ⟨operation, passed, key, value⟩ context) := by
  have grows := Metrics.grows_trans grown
    (answer_hit_grows (E := E) handle current form ⟨operation, passed, key, value⟩ context)
  have outcome := answer_hit_outcome (E := E) handle current form ⟨operation, passed, key, value⟩ context
  have idle := answer_hit_world (E := E) handle current form ⟨operation, passed, key, value⟩ context
  generalize answerHit (E := E) handle current form ⟨operation, passed, key, value⟩ context = ended at grows outcome idle ⊢
  obtain ⟨answer, now⟩ := ended
  dsimp only at outcome idle grows
  rw [← idle] at reached
  subst outcome
  have near : names.take nearer.length = passed.map Tier.name := by
    rw [stack.length_eq, ← List.length_map Tier.name]
    exact (List.prefix_iff_eq_take.mp named).symm
  cases runtime : handle || current with
  | false =>
      rw [Bool.and_false, Cells.behind, Cells.notedBehind, near, List.map_map]
      rw [runtime] at grows
      exact cells.only_settles _ now reached grows
  | true =>
      rw [runtime] at grows
      cases stack with
      | nil =>
          rw [Cells.behind, if_pos rfl, cells.detach_nowhere]
          have none : cells.notedBehind true operation key value names [] contents = [] := by
            simp [Cells.notedBehind, Cells.noted, Cells.answers]
          rw [none]
          exact cells.only_settles _ now reached grows
      | @cons place tier nearer passed runs stack =>
          intro later rests
          have moves := rests reached.valid
          rw [reached.contents] at moves
          have written := write_all_settles cells operation .backfill (some .backfillError) key value _ _ later
            (.cons runs stack) apart moves.valid
          rw [moves.contents] at written
          rw [Cells.notedBehind, if_pos rfl, near]
          simp only [List.isEmpty_cons, Bool.not_false, Bool.and_true, if_true, settle_dispatched_some]
          refine ⟨⟨rfl, cells.moves_trans (cells.moves_trans reached moves) written.1.2⟩, ?_⟩
          intro timers between
          have all := Metrics.grows_trans (Metrics.grows_trans grows between) written.2
          simp only [if_true, List.append_nil, List.nil_append] at all
          exact all

theorem hand_on_settles (runtime : Bool) (operation : String) (form : ResultForm V R) (key : K) (places : List ι)
    (tiers : List (Tier W K V)) (given : Except (Failure E) R) (asked : Nat) (start contents : ι → σ)
    (before now : Context W) (counters : List Counter) (missed : cells.search key [] places start = (.missed, contents))
    (stack : List.Forall₂ cells.RunsLate places tiers) (apart : places.Nodup)
    (reached : cells.Moves asked before.world contents now.world)
    (grown : Metrics.Grows counters [] before.metrics now.metrics) :
    cells.Settles asked before (cells.resolved (cells.behind runtime) cells.issue operation form key places given start)
      (counters ++ cells.notedGiven operation form key (tiers.map Tier.name) places given contents)
      ((handOn operation form key tiers given).run now) := by
  rw [Cells.resolved, missed, Cells.notedGiven]
  cases given with
  | error failure =>
      simp only [offered, List.append_nil]
      exact cells.only_settles _ now reached grown
  | ok result =>
      simp only [offered, handOn]
      cases form.toValue? result with
      | none =>
          simp only [List.append_nil]
          exact cells.only_settles _ now reached grown
      | some value =>
          have written := write_all_settles cells operation .store none key value places tiers now stack apart reached.valid
          rw [reached.contents] at written
          have final := cells.moves_trans reached written.1.2
          have grows := Metrics.grows_trans grown written.2
          simp only [Job.run_bind, written.1.1, Cells.issue, Cells.fault?]
          cases firstError? (cells.answers key value places contents) with
          | none => exact cells.only_settles _ _ final grows
          | some error => exact cells.only_settles _ _ final grows

theorem suspending_settles (operation : String) (form : ResultForm V R) (key : K) (places : List ι)
    (tiers : List (Tier W K V)) (handle current : Bool) (given : Except (Failure E) R)
    (origin : Job W (Except (Failure E) R)) (context : Context W) (stack : List.Forall₂ cells.RunsLate places tiers)
    (apart : places.Nodup) (gives : cells.GivesLate given origin) (valid : cells.valid context.world)
    (inhabited : places ≠ []) :
    cells.Settles (cells.asks key places (cells.contents context.world)) context
      (cells.resolved (cells.behind (handle || current)) cells.issue operation form key places given
        (cells.contents context.world))
      (cells.counted (handle || current) operation form key (tiers.map Tier.name) places given (cells.contents context.world))
      ((suspending operation form key tiers handle current origin).run context) := by
  have nonempty : tiers.isEmpty = false := by
    cases stack with
    | nil => exact absurd rfl inhabited
    | cons runs stack => rfl
  obtain ⟨follows, moves, grows⟩ := search_async_settles cells operation key [] places [] tiers context .nil stack valid
  have passes (passed : List (Tier W K V)) (value : V) := search_async_nearer operation key [] tiers passed value context
  have prefixed := cells.search_nearer key [] places
  rw [suspending, nonempty, if_neg Bool.false_ne_true, Job.run_bind]
  rcases told : cells.search key [] places (cells.contents context.world) with ⟨course, contents⟩
  rcases ended : (searchAsync operation key [] tiers).run context with ⟨found, after⟩
  rw [told, ended] at follows
  rw [told, ended] at moves
  rw [ended] at grows passes
  cases found with
  | error error =>
      obtain rfl : course = .failed error := follows
      rw [Cells.resolved, Cells.asks, Cells.counted, told]
      simp only [List.append_nil]
      exact cells.only_settles _ after moves grows
  | ok held =>
      cases held with
      | hit passed value =>
          obtain ⟨nearer, same, stack⟩ := follows
          obtain rfl : course = .hit nearer value := same
          have among := prefixed nearer value (cells.contents context.world) (by rw [told])
          rw [Cells.resolved, Cells.asks, Cells.counted, told]
          exact answer_hit_settles cells handle current form operation key value 0 context contents _ (tiers.map Tier.name)
            nearer passed after stack (apart.sublist among.sublist) ((passes passed value rfl).map Tier.name) moves grows
      | miss =>
          obtain rfl : course = .missed := follows
          obtain ⟨answered, asked⟩ := gives after.world moves.valid
          rw [moves.contents] at asked
          have reached := cells.moves_trans moves asked
          have counted := Metrics.grows_trans grows (Metrics.record_grows after.metrics (.origin operation))
          have settles := hand_on_settles cells (handle || current) operation form key places tiers given _ _ contents context
            ⟨(origin.run after.world).2, (after.recordOrigin operation).metrics⟩ _ told stack apart reached counted
          rw [Cells.asks, Cells.counted, told]
          simp only [Job.run_bind, Job.run_modify, Job.run_on_world]
          have same : (after.recordOrigin operation).world = after.world := rfl
          rw [same, answered]
          rw [List.append_assoc] at settles
          exact settles

end Resolve

end CacheTiers
