import CacheTiers.Proofs.Job.Stops
import CacheTiers.Proofs.Resolve.Watched

namespace CacheTiers

variable {W C K V R E A B : Type}

-- What the tiers hold, in the worlds in which they are what they are taken for.
structure Holdings (W C : Type) where
  valid : W → Prop
  contents : W → C

namespace Holdings

variable (holdings : Holdings W C)

def Still (before after : W) : Prop :=
  holdings.valid before → holdings.valid after ∧ holdings.contents after = holdings.contents before

def Unmoved (start world : W) : Prop := holdings.valid world ∧ holdings.contents world = holdings.contents start

-- A tier that computes with a look and a write. What it finds is what a get of the tier finds, the origin is asked where
-- that is nothing, and what it writes is what a put of the tier writes.
structure Computes (tier : Tier W K V) (key : K) (world begun : W) (look : K → W → Lookup V × W)
    (write : K → V → W → Except CacheError Unit × W) : Prop where
  begins : holdings.Still world begun
  computes : tier.computeIfAbsent key world = Tier.getThenPut look write key begun
  finds : (look key begun).1 = (tier.get key world).1
  leaves : holdings.Still begun (look key begun).2
  writes : ∀ value later, holdings.Unmoved world later →
    (write key value later).1 = (tier.put key value later).1 ∧
      holdings.contents (write key value later).2 = holdings.contents (tier.put key value later).2

structure Careful (tier : Tier W K V) : Prop where
  get : ∀ key world, holdings.Still world (tier.get key world).2
  compute : ∀ key world, holdings.valid world → ∃ begun look write, holdings.Computes tier key world begun look write
  getAsync : ∀ key world, Poll.Abides Eq holdings.Still (fun _ _ => True) world (tier.getAsync key world)

theorem composes_still : Composes holdings.Still := by
  constructor
  · exact fun world valid => ⟨valid, rfl⟩
  · intro first second third before after valid
    obtain ⟨middle, same⟩ := before valid
    obtain ⟨last, also⟩ := after middle
    exact ⟨last, also.trans same⟩

theorem usual_computes (tier : Tier W K V) (key : K) (world : W) (still : holdings.Still world (tier.get key world).2)
    (usual : tier.computeIfAbsent key world = Tier.getThenPut tier.get tier.put key world) :
    holdings.Computes tier key world world tier.get tier.put where
  begins := holdings.composes_still.refl world
  computes := usual
  finds := rfl
  leaves := still
  writes := fun _ _ _ => ⟨rfl, rfl⟩

theorem unmoved_still {start before after : W} (unmoved : holdings.Unmoved start before)
    (still : holdings.Still before after) : holdings.Unmoved start after :=
  ⟨(still unmoved.1).1, (still unmoved.1).2.trans unmoved.2⟩

end Holdings

namespace Act

def absences (count : Nat) : List (Act V A) :=
  (List.range count).flatMap fun place => [.reads place, .read place (.ok none)]

theorem absences_succ (count : Nat) :
    (absences (count + 1) : List (Act V A)) = absences count ++ [Act.reads count, .read count (.ok none)] := by
  simp [absences, List.range_succ]

theorem mem_absences (count : Nat) (act : Act V A) :
    act ∈ absences count ↔ ∃ place < count, act = .reads place ∨ act = .read place (.ok none) := by
  simp [absences]

theorem asks_not_absent (count : Nat) : (.asks : Act V A) ∉ absences count := by
  simp [mem_absences]

def IsWriteOf (value : V) : Act V A → Prop
  | .writes _ given => given = value
  | .wrote _ _ => True
  | _ => False

def Writing (value : V) (before after : Watched W V A) : Prop :=
  ∃ more, after.trail = before.trail ++ more ∧ ∀ act ∈ more, act.IsWriteOf value

theorem composes_writing (value : V) : Composes (Writing value : Watched W V A → Watched W V A → Prop) := by
  constructor
  · exact fun watched => ⟨[], (List.append_nil _).symm, List.forall_mem_nil _⟩
  · intro first second third earlier later
    obtain ⟨some, early, before⟩ := earlier
    obtain ⟨more, late, after⟩ := later
    refine ⟨some ++ more, by rw [late, early, List.append_assoc], ?_⟩
    intro act member
    rcases List.mem_append.mp member with old | new
    · exact before act old
    · exact after act new

end Act

-- The trail of a call and its result, if it has one. Where a value is found or given, nothing more is said of the result,
-- and of the world no more than what writing the value makes of it.
inductive Account (form : ResultForm V R) (operation : String) (count : Nat) (unmoved : W → Prop)
    (stored : V → W → Prop) : Watched W V (Except (Failure E) R) → Option (Except (Failure E) R) → Prop where
  | idle (world : W) (still : unmoved world) : Account form operation count unmoved stored ⟨world, []⟩ none
  | reading (place : Nat) (world : W) (within : place < count) (still : unmoved world) :
    Account form operation count unmoved stored ⟨world, Act.absences place ++ [.reads place]⟩ none
  | failed (place : Nat) (error : CacheError) (world : W) (within : place < count) (still : unmoved world) :
    Account form operation count unmoved stored
      ⟨world, Act.absences place ++ [.reads place, .read place (.error error)]⟩ (some (.error (.cache error)))
  | hit (place : Nat) (value : V) (more : List (Act V (Except (Failure E) R))) (world : W)
    (result : Except (Failure E) R) (within : place < count) (writes : ∀ act ∈ more, act.IsWriteOf value) :
    Account form operation count unmoved stored
      ⟨world, Act.absences place ++ [.reads place, .read place (.ok (some value))] ++ more⟩ (some result)
  | asking (world : W) (still : unmoved world) :
    Account form operation count unmoved stored ⟨world, Act.absences count ++ [.asks]⟩ none
  | refused (failure : Failure E) (world : W) (still : unmoved world) :
    Account form operation count unmoved stored ⟨world, Act.absences count ++ [.asks, .gave (.error failure)]⟩
      (some (.error failure))
  | absent (given : R) (world : W) (valueless : form.toValue? given = none) (still : unmoved world) :
    Account form operation count unmoved stored ⟨world, Act.absences count ++ [.asks, .gave (.ok given)]⟩
      (some (Resolve.absentResult form operation))
  | given (given : R) (value : V) (more : List (Act V (Except (Failure E) R))) (world : W)
    (result : Option (Except (Failure E) R)) (valued : form.toValue? given = some value)
    (writes : ∀ act ∈ more, act.IsWriteOf value) (kept : stored value world) :
    Account form operation count unmoved stored ⟨world, Act.absences count ++ [.asks, .gave (.ok given)] ++ more⟩ result

namespace Resolve

structure Shows (tier : Tier (Watched W V A) K V) : Prop where
  put : ∀ key value watched, Act.Writing value watched (tier.put key value watched).2
  putAsync : ∀ key value watched,
    Poll.Abides (fun _ _ => True) (Act.Writing value) (fun _ _ => True) watched (tier.putAsync key value watched)

theorem watched_shows (place : Nat) (tier : Tier W K V) : Shows (tier.watched place : Tier (Watched W V A) K V) where
  put := by
    intro key value watched
    refine ⟨_, rfl, ?_⟩
    simp [Act.IsWriteOf]
  putAsync := by
    intro key value watched
    have onward (poll : Poll W (Except CacheError Unit)) (trail : List (Act V A)) (first : Watched W V A)
        (begun : ∃ more, trail = first.trail ++ more ∧ ∀ act ∈ more, act.IsWriteOf value) :
        Poll.Abides (fun _ _ => True) (Act.Writing value) (fun _ _ => True) first (poll.watched (.wrote place) trail) := by
      induction poll generalizing trail first with
      | ready answer world =>
          obtain ⟨more, rfl, writes⟩ := begun
          refine ⟨⟨more ++ [Act.wrote place answer], by simp [List.append_assoc], ?_⟩, trivial⟩
          intro act member
          rcases List.mem_append.mp member with old | new
          · exact writes act old
          · rw [List.mem_singleton.mp new]
            trivial
      | pending rest world ih =>
          refine ⟨begun, ?_⟩
          intro later _
          exact ih later.world later.trail later ⟨[], (List.append_nil _).symm, List.forall_mem_nil _⟩
    apply onward (tier.putAsync key value watched.world) _ watched
    exact ⟨[.writes place value], rfl, by simp [Act.IsWriteOf]⟩

theorem watched_from_append (place : Nat) (tiers others : List (Tier W K V)) :
    (watchedFrom place (tiers ++ others) : List (Tier (Watched W V A) K V)) =
      watchedFrom place tiers ++ watchedFrom (place + tiers.length) others := by
  induction tiers generalizing place with
  | nil => rfl
  | cons first rest ih =>
      rw [List.cons_append, watchedFrom, watchedFrom, ih, List.length_cons, Nat.add_assoc, Nat.add_comm 1]
      rfl

theorem watched_from_length (place : Nat) (tiers : List (Tier W K V)) :
    (watchedFrom place tiers : List (Tier (Watched W V A) K V)).length = tiers.length := by
  induction tiers generalizing place with
  | nil => rfl
  | cons tier rest ih => exact congrArg (· + 1) (ih (place + 1))

theorem watched_from_names (place : Nat) (tiers : List (Tier W K V)) :
    (watchedFrom place tiers : List (Tier (Watched W V A) K V)).map Tier.name = tiers.map Tier.name := by
  induction tiers generalizing place with
  | nil => rfl
  | cons tier rest ih => exact congrArg (tier.name :: ·) (ih (place + 1))

theorem watched_from_empty (place : Nat) (tiers : List (Tier W K V)) :
    (watchedFrom place tiers : List (Tier (Watched W V A) K V)).isEmpty = tiers.isEmpty := by
  cases tiers <;> rfl

theorem watched_from_inhabited (place : Nat) {tiers : List (Tier W K V)} (inhabited : tiers ≠ []) :
    (watchedFrom place tiers : List (Tier (Watched W V A) K V)).isEmpty = false := by
  rw [watched_from_empty]
  exact List.isEmpty_eq_false_iff.mpr inhabited

section Trails

variable (holdings : Holdings W C) {start : W}

inductive Searched (start : W) (tiers : List (Tier W K V)) :
    Except CacheError (Found (Watched W V A) K V) → Watched W V A → Prop where
  | failed (place : Nat) (error : CacheError) (world : W) (within : place < tiers.length)
    (unmoved : holdings.Unmoved start world) :
    Searched start tiers (.error error) ⟨world, Act.absences place ++ [.reads place, .read place (.error error)]⟩
  | hit (place : Nat) (value : V) (world : W) (within : place < tiers.length) (unmoved : holdings.Unmoved start world) :
    Searched start tiers (.ok (.hit (watchedFrom 0 (tiers.take place)) value))
      ⟨world, Act.absences place ++ [.reads place, .read place (.ok (some value))]⟩
  | missed (world : W) (unmoved : holdings.Unmoved start world) :
    Searched start tiers (.ok .miss) ⟨world, Act.absences tiers.length⟩

theorem search_trail (operation : String) (key : K) (done rest : List (Tier W K V)) (world : W) (metrics : Metrics)
    (gets : ∀ tier ∈ rest, ∀ world, holdings.Still world (tier.get key world).2) (unmoved : holdings.Unmoved start world) :
    let ended := search operation key (watchedFrom 0 done) (watchedFrom done.length rest)
      ⟨⟨world, (Act.absences done.length : List (Act V A))⟩, metrics⟩
    Searched holdings start (done ++ rest) ended.1 ended.2.world := by
  -- The trail so far is that of the tiers that are done, each of which was found to lack the key.
  induction rest generalizing done world metrics with
  | nil =>
      rw [List.append_nil]
      exact .missed world unmoved
  | cons tier rest ih =>
      obtain ⟨first, others⟩ := List.forall_mem_cons.mp gets
      have within : done.length < (done ++ tier :: rest).length := by simp
      have longer : (done ++ [tier]).length = done.length + 1 := by simp
      have still := holdings.unmoved_still unmoved (first world)
      rcases got : tier.get key world with ⟨answer, after⟩
      rw [got] at still
      have read : Context.onWorld ((tier.watched done.length).get key)
          (⟨⟨world, Act.absences done.length⟩, metrics⟩ : Context (Watched W V A)) =
            (answer, ⟨⟨after, Act.absences done.length ++ [Act.reads done.length, .read done.length answer]⟩, metrics⟩) := by
        simp only [Context.onWorld, Tier.watched, Watched.act, got]
      intro ended
      have begun : ended = search operation key (watchedFrom 0 done) (watchedFrom done.length (tier :: rest)) _ := rfl
      rw [watchedFrom, search, read] at begun
      rw [begun]
      cases answer with
      | error error => exact .failed done.length error after within still
      | ok found =>
          cases found with
          | some value =>
              have hit : Searched (A := A) holdings start _ _ _ := .hit done.length value after within still
              rw [List.take_left] at hit
              exact hit
          | none =>
              have onward := ih (done ++ [tier]) after (metrics.record ⟨operation, tier.name, .miss⟩) others still
              rw [longer, Act.absences_succ, watched_from_append, Nat.zero_add, List.append_assoc] at onward
              exact onward

theorem search_begun (operation : String) (key : K) (tiers : List (Tier W K V)) (world : W) (metrics : Metrics)
    (gets : ∀ tier ∈ tiers, ∀ world, holdings.Still world (tier.get key world).2) (unmoved : holdings.Unmoved start world) :
    ∃ found now counted, search operation key [] (watchedFrom 0 tiers) ⟨⟨world, []⟩, metrics⟩ = (found, ⟨now, counted⟩) ∧
      Searched (A := A) holdings start tiers found now :=
  ⟨_, _, _, rfl, search_trail holdings operation key [] tiers world metrics gets unmoved⟩

theorem fill_trail (operation : String) (event : Event) (key : K) (value : V) (tiers : List (Tier (Watched W V A) K V))
    (context : Context (Watched W V A)) (shows : ∀ tier ∈ tiers, Shows tier) :
    Act.Writing value context.world (fill operation event key value tiers context).2.world := by
  have composes := Act.composes_writing (W := W) (A := A) value
  induction tiers generalizing context with
  | nil => exact composes.refl context.world
  | cons tier rest ih =>
      obtain ⟨first, others⟩ := List.forall_mem_cons.mp shows
      have written := first.put key value context.world
      rcases put : tier.put key value context.world with ⟨answer, after⟩
      rw [put] at written
      rw [fill, Context.on_world_of_eq put]
      cases answer with
      | error error => exact written
      | ok done => exact composes.trans _ _ _ written (ih _ others)

theorem write_all_trail (operation : String) (onSuccess : Event) (onFailure : Option Event) (key : K) (value : V)
    (tiers : List (Tier (Watched W V A) K V)) (context : Context (Watched W V A)) (shows : ∀ tier ∈ tiers, Shows tier) :
    (writeAll operation onSuccess onFailure key value tiers context).Stops
      (fun now => Act.Writing value context.world now.world) fun _ now => Act.Writing value context.world now.world :=
  Poll.stops_of_reaches (write_all_reaches composes_any (Act.composes_writing value) (fun _ _ _ => trivial) operation
    onSuccess onFailure key value tiers context fun tier member now _ => (shows tier member).putAsync key value now)

theorem quiet_trail (ends : B → Act V A) (poll : Poll W B) (first : W) (trail : List (Act V A))
    (quiet : Poll.Abides Eq holdings.Still (fun _ _ => True) first poll) (unmoved : holdings.Unmoved start first) :
    (poll.watched ends trail).Stops (fun now => now.trail = trail ∧ holdings.Unmoved start now.world) fun answer now =>
      now.trail = trail ++ [ends answer] ∧ holdings.Unmoved start now.world := by
  induction poll generalizing first with
  | ready answer world => exact ⟨rfl, holdings.unmoved_still unmoved quiet.1⟩
  | pending rest world ih =>
      have still := holdings.unmoved_still unmoved quiet.1
      exact ⟨⟨rfl, still⟩, ih world world (quiet.2 world rfl) still⟩

theorem search_async_trail (operation : String) (key : K) (done rest : List (Tier W K V)) (world : W) (metrics : Metrics)
    (gets : ∀ tier ∈ rest, ∀ world, holdings.valid world →
      Poll.Abides Eq holdings.Still (fun _ _ => True) world (tier.getAsync key world))
    (unmoved : holdings.Unmoved start world) :
    (searchAsync operation key (watchedFrom 0 done) (watchedFrom done.length rest)
        ⟨⟨world, (Act.absences done.length : List (Act V A))⟩, metrics⟩).Stops
      (fun now => holdings.Unmoved start now.world.world ∧
        ∃ spot < (done ++ rest).length, now.world.trail = Act.absences spot ++ [Act.reads spot])
      fun found now => Searched holdings start (done ++ rest) found now.world := by
  induction rest generalizing done world metrics with
  | nil =>
      rw [List.append_nil]
      exact .missed world unmoved
  | cons tier rest ih =>
      obtain ⟨first, others⟩ := List.forall_mem_cons.mp gets
      have within : done.length < (done ++ tier :: rest).length := by simp
      have longer : (done ++ [tier]).length = done.length + 1 := by simp
      have read := quiet_trail holdings (.read done.length) (tier.getAsync key world) world
        (Act.absences done.length ++ [Act.reads done.length] : List (Act V A)) (first world unmoved.1) unmoved
      rw [watchedFrom, searchAsync]
      apply Poll.stops_bind (Poll.stops_mono (Poll.stops_besides read)
        (fun now stopped => ⟨stopped.2, done.length, within, stopped.1⟩) (fun _ _ held => held))
      rintro answer ⟨⟨after, trail⟩, counted⟩ ⟨shown, still⟩
      obtain rfl : trail = Act.absences done.length ++ [Act.reads done.length, .read done.length answer] := by
        simpa [List.append_assoc] using shown
      cases answer with
      | error error => exact .failed done.length error after within still
      | ok found =>
          cases found with
          | some value =>
              have hit : Searched (A := A) holdings start _ _ _ := .hit done.length value after within still
              rw [List.take_left] at hit
              exact hit
          | none =>
              have onward := ih (done ++ [tier]) after (counted.record ⟨operation, tier.name, .miss⟩) others still
              rw [longer, Act.absences_succ, watched_from_append, Nat.zero_add, List.append_assoc] at onward
              exact onward

theorem search_async_begun (operation : String) (key : K) (tiers : List (Tier W K V)) (world : W) (metrics : Metrics)
    (gets : ∀ tier ∈ tiers, ∀ world, holdings.valid world →
      Poll.Abides Eq holdings.Still (fun _ _ => True) world (tier.getAsync key world))
    (unmoved : holdings.Unmoved start world) :
    ∃ found now counted, (searchAsync operation key [] (watchedFrom 0 tiers)).run ⟨⟨world, []⟩, metrics⟩ =
        (found, ⟨now, counted⟩) ∧ Searched (A := A) holdings start tiers found now :=
  ⟨_, _, _, rfl, Job.run_stops (search_async_trail holdings operation key [] tiers world metrics gets unmoved)⟩

end Trails

section Accounts

variable (holdings : Holdings W C) {start : W} {form : ResultForm V R} {operation : String} {count : Nat}
  {stored : V → W → Prop}

theorem hit_account {place : Nat} {value : V} {world : W} {after : Watched W V (Except (Failure E) R)}
    {unmoved : W → Prop} (result : Except (Failure E) R) (within : place < count)
    (writing : Act.Writing value ⟨world, Act.absences place ++ [Act.reads place, .read place (.ok (some value))]⟩ after) :
    Account form operation count unmoved stored after (some result) := by
  obtain ⟨now, trail⟩ := after
  obtain ⟨more, rfl, writes⟩ := writing
  exact .hit place value more now result within writes

theorem given_account {given : R} {value : V} {world : W} {after : Watched W V (Except (Failure E) R)}
    {unmoved : W → Prop}
    (result : Option (Except (Failure E) R)) (valued : form.toValue? given = some value) (kept : stored value after.world)
    (writing : Act.Writing value ⟨world, Act.absences count ++ [Act.asks, .gave (.ok given)]⟩ after) :
    Account form operation count unmoved stored after result := by
  obtain ⟨now, trail⟩ := after
  obtain ⟨more, rfl, writes⟩ := writing
  exact .given given value more now result valued writes kept

theorem after_fill_context (value : V) (filled : Except CacheError Unit × Context A) :
    (afterFill (E := E) form value filled).2 = filled.2 := by
  obtain ⟨answer, context⟩ := filled
  cases answer with
  | error error => rfl
  | ok done => rfl

theorem watched_from_shows (place : Nat) (tiers : List (Tier W K V)) :
    ∀ tier ∈ (watchedFrom place tiers : List (Tier (Watched W V A) K V)), Shows tier := by
  intro tier member
  obtain ⟨spot, original, _, rfl⟩ := mem_watched_from place tiers tier member
  exact watched_shows spot original

theorem through_tiers_account (key : K) (tiers : List (Tier W K V)) (origin : W → Except (Failure E) R × W) (world : W)
    (metrics : Metrics) (careful : ∀ tier ∈ tiers, holdings.Careful tier)
    (quiet : ∀ world, holdings.Still world (origin world).2) (unmoved : holdings.Unmoved start world) :
    let ended := throughTiers operation form key (watchedFrom 0 tiers) (Watched.act .asks .gave origin)
      ⟨⟨world, []⟩, metrics⟩
    Account form operation tiers.length (holdings.Unmoved start) (fun _ _ => True) ended.2.world (some ended.1) := by
  obtain ⟨found, now, counted, here, searched⟩ := search_begun (A := Except (Failure E) R) holdings operation key tiers world
    metrics (fun tier member => (careful tier member).get key) unmoved
  intro ended
  have begun : ended = throughTiers operation form key (watchedFrom 0 tiers) (Watched.act .asks .gave origin) _ := rfl
  rw [throughTiers, here] at begun
  cases searched with
  | failed place error after within still =>
      rw [begun]
      exact .failed place error after within still
  | hit place value after within still =>
      rw [begun]
      apply hit_account _ within
      rw [after_fill_context]
      exact fill_trail operation .backfill key value _ _ (watched_from_shows 0 _)
  | missed after still =>
      have asked := holdings.unmoved_still still (quiet after)
      dsimp only at begun
      rw [Context.recordOrigin, Watched.on_world_act] at begun
      rw [begun]
      generalize origin after = given at asked ⊢
      obtain ⟨answer, later⟩ := given
      cases answer with
      | error failure => exact .refused failure later asked
      | ok result =>
          dsimp only
          cases valued : form.toValue? result with
          | none => exact .absent result later valued asked
          | some value =>
              apply given_account _ valued trivial
              rw [after_fill_context]
              exact fill_trail operation .store key value _ _ (watched_from_shows 0 tiers)

theorem computes_watched {tier : Tier W K V} {key : K} {world begun : W} {look : K → W → Lookup V × W}
    {write : K → V → W → Except CacheError Unit × W} (computes : holdings.Computes tier key world begun look write)
    (place : Nat) (trail : List (Act V A)) :
    (tier.watched place).computeIfAbsent key ⟨world, trail⟩ =
      Tier.getThenPut (fun key => Watched.act (.reads place) (.read place) (look key))
        (fun key value => Watched.act (.writes place value) (.wrote place) (write key value)) key ⟨begun, trail⟩ := by
  rw [← Tier.usual_watched place look write key ⟨begun, trail⟩, ← computes.computes]
  rfl

theorem through_one_answered (key : K) (tier : Tier W K V) (origin : W → Except (Failure E) R × W) (context : Context W)
    (outcome : Lookup V) (world : W) (consulted : tier.computeIfAbsent key context.world = .answer outcome world) :
    (throughOne operation form key tier origin context).2.world = world := by
  rw [throughOne, consulted]
  cases outcome with
  | error error => rfl
  | ok found => cases found <;> rfl

theorem kept_account (name : String) (key : K) (write : K → V → W → Except CacheError Unit × W)
    (answer : Except (Failure E) R) (later : W) (metrics : Metrics) (reached : holdings.Unmoved start later) :
    let keep := Tier.keep (fun key value => Watched.act (.writes 0 value) (.wrote 0) (write key value)) key
    let ended := afterResume operation name form answer
      (Context.onWorld (keep (.ok (offered form answer))) ⟨⟨later, Act.absences 1 ++ [Act.asks, .gave answer]⟩, metrics⟩)
    Account form operation 1 (holdings.Unmoved start) (fun _ _ => True) ended.2.world (some ended.1) := by
  intro keep ended
  cases answer with
  | error failure => exact .refused failure later reached
  | ok result =>
      cases valued : form.toValue? result with
      | none =>
          simp only [ended, keep, offered, valued]
          exact .absent result later valued reached
      | some value =>
          have written : Act.Writing value
              (⟨later, Act.absences 1 ++ [Act.asks, .gave (.ok result)]⟩ : Watched W V (Except (Failure E) R))
              ended.2.world := by
            simp only [ended, after_resume_world, keep, offered, valued, Context.onWorld, Tier.keep, Watched.act]
            rcases write key value later with ⟨answer, after⟩
            cases answer with
            | error error => exact ⟨[.writes 0 value, .wrote 0 (.error error)], rfl, by simp [Act.IsWriteOf]⟩
            | ok done => exact ⟨[.writes 0 value, .wrote 0 (.ok done)], rfl, by simp [Act.IsWriteOf]⟩
          exact given_account _ valued trivial written

theorem through_one_account (key : K) (tier : Tier W K V) (origin : W → Except (Failure E) R × W) (world : W)
    (metrics : Metrics) (careful : holdings.Careful tier) (quiet : ∀ world, holdings.Still world (origin world).2)
    (unmoved : holdings.Unmoved start world) :
    let ended := throughOne operation form key (tier.watched 0) (Watched.act .asks .gave origin) ⟨⟨world, []⟩, metrics⟩
    Account form operation 1 (holdings.Unmoved start) (fun _ _ => True) ended.2.world (some ended.1) := by
  intro ended
  obtain ⟨begun, look, write, computes⟩ := careful.compute key world unmoved.1
  have still := holdings.unmoved_still (holdings.unmoved_still unmoved computes.begins) computes.leaves
  have watched := computes_watched (A := Except (Failure E) R) holdings computes 0 []
  have ran : ended = throughOne operation form key (tier.watched 0) _ _ := rfl
  -- The tier is seen through its look, and what this finds decides.
  rcases looked : look key begun with ⟨answer, after⟩
  rw [looked] at still
  simp only [Tier.getThenPut, Watched.act, looked, List.nil_append] at watched
  cases answer with
  | error error =>
      rw [throughOne] at ran
      dsimp only at ran watched
      rw [watched] at ran
      rw [ran]
      exact .failed 0 error after Nat.one_pos still
  | ok found =>
      cases found with
      | some value =>
          rw [throughOne] at ran
          dsimp only at ran watched
          rw [watched] at ran
          rw [ran]
          exact .hit 0 value [] after _ Nat.one_pos (List.forall_mem_nil _)
      | none =>
          rw [ran, through_one_asked operation form key (tier.watched 0) _ _ _ _ watched]
          exact kept_account holdings tier.name key write (origin after).1 (origin after).2 _
            (holdings.unmoved_still still (quiet after))

theorem blocking_account (key : K) (tiers : List (Tier W K V)) (origin : W → Except (Failure E) R × W) (world : W)
    (metrics : Metrics) (inhabited : tiers ≠ []) (careful : ∀ tier ∈ tiers, holdings.Careful tier)
    (quiet : ∀ world, holdings.Still world (origin world).2) (unmoved : holdings.Unmoved start world) :
    let ended := blocking operation form key (watchedFrom 0 tiers) (Watched.act .asks .gave origin) ⟨⟨world, []⟩, metrics⟩
    Account form operation tiers.length (holdings.Unmoved start) (fun _ _ => True) ended.2.world (some ended.1) := by
  cases tiers with
  | nil => exact absurd rfl inhabited
  | cons tier rest =>
      cases rest with
      | nil =>
          exact through_one_account holdings key tier origin world metrics (careful tier List.mem_cons_self) quiet unmoved
      | cons next rest => exact through_tiers_account holdings key _ origin world metrics careful quiet unmoved

-- The result of a suspending resolution is accounted for when it ends, and stays so while the dispatched work is run.
structure Accounted (form : ResultForm V R) (operation : String) (count : Nat) (unmoved : W → Prop)
    (stored : V → W → Prop) (outcome : Outcome (Watched W V (Except (Failure E) R)) K V R E)
    (now : Watched W V (Except (Failure E) R)) : Prop where
  result : Account form operation count unmoved stored now (some outcome.result)
  dispatched : ∀ backfill, outcome.dispatched = some backfill → (∀ tier ∈ backfill.targets, Shows tier) ∧
    ∀ later, Act.Writing backfill.value now later → Account form operation count unmoved stored later (some outcome.result)

theorem only_accounted {unmoved : W → Prop} (result : Except (Failure E) R) (now : Watched W V (Except (Failure E) R))
    (account : Account form operation count unmoved stored now (some result)) :
    Accounted (K := K) form operation count unmoved stored (.only result) now :=
  ⟨account, fun _ impossible => by cases impossible⟩

theorem hand_on_accounted (key : K) (tiers : List (Tier (Watched W V (Except (Failure E) R)) K V)) (world : W)
    (metrics : Metrics) (given : Except (Failure E) R) (shows : ∀ tier ∈ tiers, Shows tier)
    (stores : ∀ value (context : Context (Watched W V (Except (Failure E) R))), holdings.Unmoved start context.world.world →
      (writeAll operation .store none key value tiers context).Stops (fun now => stored value now.world.world)
        fun _ now => stored value now.world.world)
    (unmoved : holdings.Unmoved start world) :
    (handOn operation form key tiers given ⟨⟨world, Act.absences count ++ [Act.asks, .gave given]⟩, metrics⟩).Stops
      (fun now => Account form operation count (holdings.Unmoved start) stored now.world none)
      fun outcome now => Accounted form operation count (holdings.Unmoved start) stored outcome now.world := by
  cases given with
  | error failure => exact only_accounted _ _ (.refused failure world unmoved)
  | ok result =>
      rw [handOn]
      cases valued : form.toValue? result with
      | none => exact only_accounted _ _ (.absent result world valued unmoved)
      | some value =>
          have written := Poll.stops_and
            (write_all_trail operation .store none key value tiers
              ⟨⟨world, Act.absences count ++ [Act.asks, .gave (.ok result)]⟩, metrics⟩ shows)
            (stores value ⟨⟨world, Act.absences count ++ [Act.asks, .gave (.ok result)]⟩, metrics⟩ unmoved)
          apply Poll.stops_bind (Poll.stops_mono written (fun now stopped => given_account none valued stopped.2 stopped.1)
            (fun _ _ ended => ended))
          intro answers now ended
          cases firstError? answers with
          | none => exact only_accounted _ _ (given_account _ valued ended.2 ended.1)
          | some error => exact only_accounted _ _ (given_account _ valued ended.2 ended.1)

theorem answer_hit_accounted (handle current : Bool) (key : K) (place : Nat) (value : V)
    (nearer : List (Tier (Watched W V (Except (Failure E) R)) K V)) (world : W) (metrics : Metrics) (unmoved : W → Prop)
    (within : place < count) (shows : ∀ tier ∈ nearer, Shows tier) :
    let ended := answerHit (E := E) handle current form ⟨operation, nearer, key, value⟩
      ⟨⟨world, Act.absences place ++ [Act.reads place, .read place (.ok (some value))]⟩, metrics⟩
    Accounted form operation count unmoved stored ended.1 ended.2.world := by
  intro ended
  have composes := Act.composes_writing (W := W) (A := Except (Failure E) R) value
  have here : ended.2.world = ⟨world, Act.absences place ++ [Act.reads place, .read place (.ok (some value))]⟩ :=
    answer_hit_world handle current form _ _
  refine ⟨?_, ?_⟩
  · rw [here]
    exact hit_account _ within (composes.refl _)
  · intro backfill sent
    have same : backfill = ⟨operation, nearer, key, value⟩ := by
      simp only [ended, answerHit] at sent
      split at sent
      · cases sent
      · exact dispatch_given handle current _ _ _ sent
    subst same
    refine ⟨shows, ?_⟩
    intro later writing
    rw [here] at writing
    exact hit_account _ within writing

theorem suspending_accounted (key : K) (tiers : List (Tier W K V)) (handle current : Bool)
    (origin : Job W (Except (Failure E) R)) (world : W) (metrics : Metrics) (inhabited : tiers ≠ [])
    (gets : ∀ tier ∈ tiers, ∀ world, holdings.valid world →
      Poll.Abides Eq holdings.Still (fun _ _ => True) world (tier.getAsync key world))
    (quiet : ∀ world, holdings.valid world → Poll.Abides Eq holdings.Still (fun _ _ => True) world (origin world))
    (stores : ∀ value (context : Context (Watched W V (Except (Failure E) R))), holdings.Unmoved start context.world.world →
      (writeAll operation .store none key value (watchedFrom 0 tiers) context).Stops
        (fun now => stored value now.world.world) fun _ now => stored value now.world.world)
    (unmoved : holdings.Unmoved start world) :
    (suspending operation form key (watchedFrom 0 tiers) handle current (origin.watched .asks .gave)
        ⟨⟨world, []⟩, metrics⟩).Stops
      (fun now => Account form operation tiers.length (holdings.Unmoved start) stored now.world none)
      fun outcome now => Accounted form operation tiers.length (holdings.Unmoved start) stored outcome now.world := by
  have searched := search_async_trail (A := Except (Failure E) R) holdings operation key [] tiers world metrics gets unmoved
  rw [suspending, watched_from_inhabited 0 inhabited]
  simp only [Bool.false_eq_true, if_false]
  have reading (now : Context (Watched W V (Except (Failure E) R)))
      (stopped : holdings.Unmoved start now.world.world ∧
        ∃ spot < tiers.length, now.world.trail = Act.absences spot ++ [Act.reads spot]) :
      Account form operation tiers.length (holdings.Unmoved start) stored now.world none := by
    obtain ⟨⟨after, trail⟩, counted⟩ := now
    obtain ⟨still, spot, within, rfl⟩ := stopped
    exact .reading spot after within still
  apply Poll.stops_bind (Poll.stops_mono searched reading (fun _ _ held => held))
  rintro found ⟨now, counted⟩ ended
  cases ended with
  | failed place error after within still => exact only_accounted _ _ (.failed place error after within still)
  | hit place value after within still =>
      exact answer_hit_accounted handle current key place value _ after counted _ within (watched_from_shows 0 _)
  | missed after still =>
      have asked := quiet_trail holdings .gave (origin after) after
        (Act.absences tiers.length ++ [Act.asks] : List (Act V (Except (Failure E) R))) (quiet after still.1) still
      change Poll.Stops _ _ (Poll.bind (((origin.watched .asks .gave).onWorld) ⟨⟨after, Act.absences tiers.length⟩, _⟩) _)
      have asking (now : Context (Watched W V (Except (Failure E) R)))
          (stopped : now.world.trail = Act.absences tiers.length ++ [Act.asks] ∧ holdings.Unmoved start now.world.world) :
          Account form operation tiers.length (holdings.Unmoved start) stored now.world none := by
        obtain ⟨⟨later, trail⟩, counted⟩ := now
        obtain ⟨rfl, still⟩ := stopped
        exact .asking later still
      apply Poll.stops_bind (Poll.stops_mono (Poll.stops_besides asked) asking (fun _ _ held => held))
      rintro given ⟨⟨later, trail⟩, counted⟩ ⟨shown, kept⟩
      obtain rfl : trail = Act.absences tiers.length ++ [Act.asks, .gave given] := by
        simpa [List.append_assoc] using shown
      exact hand_on_accounted holdings key _ later counted given (watched_from_shows 0 tiers) stores kept

theorem settle_account {unmoved : W → Prop} (outcome : Outcome (Watched W V (Except (Failure E) R)) K V R E)
    (context : Context (Watched W V (Except (Failure E) R)))
    (accounted : Accounted form operation count unmoved stored outcome context.world) :
    Account form operation count unmoved stored (settleDispatched outcome.dispatched context).world (some outcome.result) := by
  cases sent : outcome.dispatched with
  | none => exact accounted.result
  | some backfill =>
      obtain ⟨shows, later⟩ := accounted.dispatched backfill sent
      have written := write_all_trail backfill.operation .backfill (some .backfillError) backfill.key backfill.value
        backfill.targets context shows
      rw [settle_dispatched_some]
      exact later _ (Job.run_stops written)

end Accounts

end Resolve

end CacheTiers
