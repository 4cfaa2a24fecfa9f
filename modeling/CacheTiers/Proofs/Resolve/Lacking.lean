import CacheTiers.Proofs.Resolve.Counting
import CacheTiers.Proofs.Resolve.Restraint

namespace CacheTiers

variable {W C K V R E A : Type}

inductive Lacking (read : Tier W K V → W → Lookup V × W) : List (Tier W K V) → W → W → Prop where
  | nil (world : W) : Lacking read [] world world
  | cons (tier : Tier W K V) (rest : List (Tier W K V)) (first next last : W) (absent : read tier first = (.ok none, next))
    (others : Lacking read rest next last) : Lacking read (tier :: rest) first last

theorem lacking_still (holdings : Holdings W C) {read : Tier W K V → W → Lookup V × W} {tiers : List (Tier W K V)}
    {first last : W} (lacking : Lacking read tiers first last)
    (still : ∀ tier ∈ tiers, ∀ world, holdings.Still world (read tier world).2) : holdings.Still first last := by
  induction lacking with
  | nil world => exact holdings.composes_still.refl world
  | cons tier rest first next last absent _ ih =>
      obtain ⟨here, others⟩ := List.forall_mem_cons.mp still
      have step := here first
      rw [absent] at step
      exact holdings.composes_still.trans _ _ _ step (ih others)

theorem found_still (holdings : Holdings W C) {read : Tier W K V → W → Lookup V × W} {nearer further : List (Tier W K V)}
    {hit : Tier W K V} {first met after : W} {answer : Lookup V} (lacking : Lacking read nearer first met)
    (holds : read hit met = (answer, after))
    (still : ∀ tier ∈ nearer ++ hit :: further, ∀ world, holdings.Still world (read tier world).2) :
    holdings.Still first after := by
  obtain ⟨before, behind⟩ := List.forall_mem_append.mp still
  have last := (List.forall_mem_cons.mp behind).1 met
  rw [holds] at last
  exact holdings.composes_still.trans _ _ _ (lacking_still holdings lacking before) last

theorem lacking_watched {read : Tier W K V → W → Lookup V × W}
    (seen : Tier (Watched W V A) K V → Watched W V A → Lookup V × Watched W V A) (place : Nat) {tiers : List (Tier W K V)}
    {first last : W}
    (shows : ∀ spot tier now, seen (tier.watched spot) now = ((read tier now.world).1,
      ⟨(read tier now.world).2, now.trail ++ [.reads spot, .read spot (read tier now.world).1]⟩))
    (lacking : Lacking read tiers first last) :
    Lacking seen (Resolve.watchedFrom place tiers) ⟨first, Act.absences place⟩
      ⟨last, Act.absences (place + tiers.length)⟩ := by
  induction lacking generalizing place with
  | nil world => exact .nil _
  | cons tier rest first next last absent _ ih =>
      have begun := shows place tier ⟨first, Act.absences place⟩
      rw [absent, ← Act.absences_succ] at begun
      have onward := ih (place + 1)
      rw [Nat.add_assoc, Nat.add_comm 1] at onward
      exact .cons _ _ _ _ _ begun onward

def Act.finding (place : Nat) (value : V) : List (Act V A) :=
  absences place ++ [.reads place, .read place (.ok (some value))]

-- What a search in the suspending form makes use of.
def Tier.lookups (tier : Tier W K V) : String × (K → Job W (Lookup V)) := (tier.name, tier.getAsync)

theorem lacking_alike {key : K} {tiers others : List (Tier W K V)} {first last : W}
    (lacking : Lacking (fun tier => (tier.getAsync key).run) tiers first last)
    (alike : others.map Tier.lookups = tiers.map Tier.lookups) :
    Lacking (fun tier => (tier.getAsync key).run) others first last := by
  induction lacking generalizing others with
  | nil world =>
      rw [List.map_eq_nil_iff.mp alike]
      exact .nil world
  | cons tier rest first next last absent _ ih =>
      obtain ⟨other, more, rfl, same, alike⟩ := List.map_eq_cons_iff.mp alike
      have looks : other.getAsync = tier.getAsync := congrArg Prod.snd same
      refine .cons other more first next last ?_ (ih alike)
      rw [looks]
      exact absent

theorem names_of_lookups {tiers others : List (Tier W K V)} (alike : others.map Tier.lookups = tiers.map Tier.lookups) :
    others.map Tier.name = tiers.map Tier.name := by
  have names := congrArg (List.map Prod.fst) alike
  rwa [List.map_map, List.map_map] at names

namespace Resolve

def hitCounted (operation : String) (nearer : List String) (hit : String) (metrics : Metrics) : Metrics :=
  (metrics.recordEach operation .miss nearer).record ⟨operation, hit, .hit⟩

theorem hit_counted_grows (operation : String) (nearer : List String) (hit : String) (metrics : Metrics) :
    Metrics.Grows ((nearer.map fun name => ⟨operation, name, .miss⟩) ++ [⟨operation, hit, .hit⟩]) [] metrics
      (hitCounted operation nearer hit metrics) :=
  Metrics.grows_trans (Metrics.record_each_grows operation .miss nearer metrics) (Metrics.record_grows _ _)

def lateCounted (runtime : Bool) (operation : String) (nearer : List String) (hit : String) (metrics : Metrics) : Metrics :=
  if runtime then hitCounted operation nearer hit metrics
  else (hitCounted operation nearer hit metrics).recordEach operation .backfillError nearer

theorem late_counted_grows (operation : String) (nearer : List String) (hit : String) (metrics : Metrics) :
    Metrics.Grows ((nearer.map fun name => ⟨operation, name, .miss⟩) ++ [⟨operation, hit, .hit⟩] ++
      nearer.map fun name => ⟨operation, name, .backfillError⟩) [] metrics
      (lateCounted false operation nearer hit metrics) :=
  Metrics.grows_trans (hit_counted_grows operation nearer hit metrics)
    (Metrics.record_each_grows operation .backfillError nearer _)

def hitOutcome (runtime : Bool) (form : ResultForm V R) (backfill : Backfill W K V) : Outcome W K V R E :=
  ⟨.ok (form.ofValue backfill.value), if !backfill.targets.isEmpty && runtime then some backfill else none⟩

theorem hit_outcome_dispatched (runtime : Bool) (form : ResultForm V R) (backfill : Backfill W K V) :
    (hitOutcome runtime form backfill : Outcome W K V R E).dispatched.isSome = (!backfill.targets.isEmpty && runtime) := by
  rw [hitOutcome]
  cases !backfill.targets.isEmpty && runtime <;> rfl

theorem search_past (operation : String) (key : K) (before nearer rest : List (Tier W K V)) (first last : W)
    (metrics : Metrics) (lacking : Lacking (fun tier => tier.get key) nearer first last) :
    search operation key before (nearer ++ rest) ⟨first, metrics⟩ =
      search operation key (before ++ nearer) rest ⟨last, metrics.recordEach operation .miss (nearer.map Tier.name)⟩ := by
  induction lacking generalizing before metrics with
  | nil world =>
      rw [List.nil_append, List.append_nil]
      rfl
  | cons tier nearer first next last absent _ ih =>
      have onward := ih (before ++ [tier]) (metrics.record ⟨operation, tier.name, .miss⟩)
      rw [List.append_assoc] at onward
      rw [List.cons_append, search, Context.on_world_of_eq absent]
      exact onward

theorem search_async_past (operation : String) (key : K) (before nearer rest : List (Tier W K V)) (first last : W)
    (metrics : Metrics) (lacking : Lacking (fun tier => (tier.getAsync key).run) nearer first last) :
    (searchAsync operation key before (nearer ++ rest)).run ⟨first, metrics⟩ =
      (searchAsync operation key (before ++ nearer) rest).run
        ⟨last, metrics.recordEach operation .miss (nearer.map Tier.name)⟩ := by
  induction lacking generalizing before metrics with
  | nil world =>
      rw [List.nil_append, List.append_nil]
      rfl
  | cons tier nearer first next last absent _ ih =>
      have onward := ih (before ++ [tier]) (metrics.record ⟨operation, tier.name, .miss⟩)
      rw [List.append_assoc] at onward
      rw [List.cons_append, searchAsync, Job.run_bind, Job.run_on_world, absent]
      exact onward

theorem search_hit (operation : String) (key : K) (before nearer : List (Tier W K V)) (hit : Tier W K V)
    (further : List (Tier W K V)) (first met after : W) (metrics : Metrics) (value : V)
    (lacking : Lacking (fun tier => tier.get key) nearer first met) (holds : hit.get key met = (.ok (some value), after)) :
    search operation key before (nearer ++ hit :: further) ⟨first, metrics⟩ =
      (.ok (.hit (before ++ nearer) value), ⟨after, hitCounted operation (nearer.map Tier.name) hit.name metrics⟩) := by
  rw [search_past operation key before nearer (hit :: further) first met metrics lacking, search,
    Context.on_world_of_eq holds]
  rfl

theorem search_async_hit (operation : String) (key : K) (before nearer : List (Tier W K V)) (hit : Tier W K V)
    (further : List (Tier W K V)) (first met after : W) (metrics : Metrics) (value : V)
    (lacking : Lacking (fun tier => (tier.getAsync key).run) nearer first met)
    (holds : (hit.getAsync key).run met = (.ok (some value), after)) :
    (searchAsync operation key before (nearer ++ hit :: further)).run ⟨first, metrics⟩ =
      (.ok (.hit (before ++ nearer) value), ⟨after, hitCounted operation (nearer.map Tier.name) hit.name metrics⟩) := by
  rw [search_async_past operation key before nearer (hit :: further) first met metrics lacking, searchAsync, Job.run_bind,
    Job.run_on_world, holds]
  rfl

theorem blocking_hit (operation : String) (form : ResultForm V R) (key : K) (nearer : List (Tier W K V))
    (hit : Tier W K V) (further : List (Tier W K V)) (origin : W → Except (Failure E) R × W) (first met after : W)
    (metrics : Metrics) (value : V) (several : 2 ≤ (nearer ++ hit :: further).length)
    (lacking : Lacking (fun tier => tier.get key) nearer first met) (holds : hit.get key met = (.ok (some value), after)) :
    blocking operation form key (nearer ++ hit :: further) origin ⟨first, metrics⟩ =
      afterFill form value
        (fill operation .backfill key value nearer ⟨after, hitCounted operation (nearer.map Tier.name) hit.name metrics⟩) := by
  rw [blocking_through operation form key _ origin _ several, throughTiers,
    search_hit operation key [] nearer hit further first met after metrics value lacking holds]
  rfl

theorem blocking_hit_watched (operation : String) (form : ResultForm V R) (key : K) (nearer : List (Tier W K V))
    (hit : Tier W K V) (further : List (Tier W K V)) (origin : Watched W V A → Except (Failure E) R × Watched W V A)
    (first met after : W) (metrics : Metrics) (value : V) (several : 2 ≤ (nearer ++ hit :: further).length)
    (lacking : Lacking (fun tier => tier.get key) nearer first met) (holds : hit.get key met = (.ok (some value), after)) :
    blocking operation form key (watchedFrom 0 (nearer ++ hit :: further)) origin ⟨⟨first, []⟩, metrics⟩ =
      afterFill form value (fill operation .backfill key value (watchedFrom 0 nearer)
        ⟨⟨after, Act.finding nearer.length value⟩,
          hitCounted operation (nearer.map Tier.name) hit.name metrics⟩) := by
  have seen := lacking_watched (A := A) (fun tier => tier.get key) 0 (fun _ _ _ => rfl) lacking
  have found : (hit.watched nearer.length).get key ⟨met, Act.absences nearer.length⟩ =
      (.ok (some value), (⟨after, Act.finding nearer.length value⟩ : Watched W V A)) := by
    simp only [Tier.watched, Watched.act, holds]
    rfl
  have tall : 2 ≤ (watchedFrom 0 nearer ++ hit.watched nearer.length :: watchedFrom (nearer.length + 1) further :
      List (Tier (Watched W V A) K V)).length := by
    simpa [watched_from_length] using several
  rw [Nat.zero_add] at seen
  have ran := blocking_hit operation form key _ _ _ origin _ _ _ metrics value tall seen found
  rw [watched_from_names] at ran
  rw [watched_from_append, Nat.zero_add]
  exact ran

theorem suspending_hit (operation : String) (form : ResultForm V R) (key : K) (nearer : List (Tier W K V))
    (hit : Tier W K V) (further : List (Tier W K V)) (handle current : Bool) (origin : Job W (Except (Failure E) R))
    (first met after : W) (metrics : Metrics) (value : V)
    (lacking : Lacking (fun tier => (tier.getAsync key).run) nearer first met)
    (holds : (hit.getAsync key).run met = (.ok (some value), after)) :
    (suspending operation form key (nearer ++ hit :: further) handle current origin).run ⟨first, metrics⟩ =
      (hitOutcome (handle || current) form ⟨operation, nearer, key, value⟩,
        ⟨after, lateCounted (handle || current) operation (nearer.map Tier.name) hit.name metrics⟩) := by
  have inhabited : (nearer ++ hit :: further).isEmpty = false := by simp
  have answers : (suspending operation form key (nearer ++ hit :: further) handle current origin).run ⟨first, metrics⟩ =
      answerHit handle current form ⟨operation, nearer, key, value⟩
        ⟨after, hitCounted operation (nearer.map Tier.name) hit.name metrics⟩ := by
    rw [suspending, inhabited, if_neg Bool.false_ne_true, Job.run_bind,
      search_async_hit operation key [] nearer hit further first met after metrics value lacking holds]
    rfl
  rw [answers]
  refine Prod.ext (answer_hit_outcome ..) ?_
  rw [answer_hit_context, lateCounted]
  split <;> rfl

-- Stacks that are named alike and look for the key alike, up to the tier that has it, come to the same result and count the
-- same, whatever their writes do.
theorem suspending_hit_alike (operation : String) (form : ResultForm V R) (key : K) (nearer others : List (Tier W K V))
    (hit otherHit : Tier W K V) (further beyond : List (Tier W K V)) (handle current : Bool)
    (origin elsewhere : Job W (Except (Failure E) R)) (context : Context W) (met after : W) (value : V)
    (lacking : Lacking (fun tier => (tier.getAsync key).run) nearer context.world met)
    (holds : (hit.getAsync key).run met = (.ok (some value), after))
    (looks : others.map Tier.lookups = nearer.map Tier.lookups) (same : otherHit.lookups = hit.lookups) :
    let one := (suspending operation form key (nearer ++ hit :: further) handle current origin).run context
    let other := (suspending operation form key (others ++ otherHit :: beyond) handle current elsewhere).run context
    other.1.result = one.1.result ∧ other.2 = one.2 := by
  intro one other
  have name : otherHit.name = hit.name := congrArg Prod.fst same
  have gets : otherHit.getAsync = hit.getAsync := congrArg Prod.snd same
  have first : one = (hitOutcome _ form ⟨operation, nearer, key, value⟩, ⟨after, _⟩) :=
    suspending_hit operation form key nearer hit further handle current origin context.world met after context.metrics value
      lacking holds
  have second : other = (hitOutcome _ form ⟨operation, others, key, value⟩, ⟨after, _⟩) :=
    suspending_hit operation form key others otherHit beyond handle current elsewhere context.world met after context.metrics
      value (lacking_alike lacking looks) (by rw [gets, holds])
  rw [names_of_lookups looks, name] at second
  rw [first, second]
  exact ⟨rfl, rfl⟩

theorem suspending_hit_watched (operation : String) (form : ResultForm V R) (key : K) (nearer : List (Tier W K V))
    (hit : Tier W K V) (further : List (Tier W K V)) (handle current : Bool)
    (origin : Job (Watched W V A) (Except (Failure E) R)) (first met after : W) (metrics : Metrics) (value : V)
    (lacking : Lacking (fun tier => (tier.getAsync key).run) nearer first met)
    (holds : (hit.getAsync key).run met = (.ok (some value), after)) :
    (suspending operation form key (watchedFrom 0 (nearer ++ hit :: further)) handle current origin).run
        ⟨⟨first, []⟩, metrics⟩ =
      (hitOutcome (handle || current) form ⟨operation, watchedFrom 0 nearer, key, value⟩,
        ⟨⟨after, Act.finding nearer.length value⟩,
          lateCounted (handle || current) operation (nearer.map Tier.name) hit.name metrics⟩) := by
  have seen := lacking_watched (A := A) (fun tier => (tier.getAsync key).run) 0
    (fun spot tier now => Job.run_watched (.reads spot) (.read spot) (tier.getAsync key) now) lacking
  have found : ((hit.watched nearer.length).getAsync key).run ⟨met, Act.absences nearer.length⟩ =
      (.ok (some value), (⟨after, Act.finding nearer.length value⟩ : Watched W V A)) := by
    simp only [Tier.watched, Job.run_watched, holds]
    rfl
  rw [Nat.zero_add] at seen
  have ran := suspending_hit operation form key _ _ (watchedFrom (nearer.length + 1) further) handle current origin _ _ _
    metrics value seen found
  rw [watched_from_names] at ran
  rw [watched_from_append, Nat.zero_add]
  exact ran

end Resolve

end CacheTiers
