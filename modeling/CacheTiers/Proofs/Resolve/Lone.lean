import CacheTiers.Proofs.Resolve.Missed
import CacheTiers.Session.Basic

namespace CacheTiers

variable {W K V R E A : Type}

namespace Consult

def gave? (origin : W → A × W) : Consult W V → Option A
  | .answer _ _ => none
  | .ask _ world => some (origin world).1

-- Once it is told that there is no value, the tier has no error of its own.
def Yields : Consult W V → Prop
  | .answer _ _ => True
  | .ask resume _ => ∀ later error, (resume (.ok none) later).1 ≠ .error error

end Consult

namespace Resolve

def consulted (form : ResultForm V R) (origin : W → Except (Failure E) R × W) (world : W) : Lookup V × W :=
  (.ok (offered form (origin world).1), (origin world).2)

-- The result of a call over one tier, by what the tier answers and by what the origin gave where it was asked.
def loneResult (operation : String) (form : ResultForm V R) :
    Lookup V → Option (Except (Failure E) R) → Except (Failure E) R
  | .error error, _ => .error (.cache error)
  | .ok _, some (.error failure) => .error failure
  | .ok (some value), _ => .ok (form.ofValue value)
  | .ok none, _ => absentResult form operation

theorem after_resume_result (operation tier : String) (form : ResultForm V R) (given : Except (Failure E) R)
    (answered : Lookup V × Context W) :
    (afterResume operation tier form given answered).1 = loneResult operation form answered.1 (some given) := by
  obtain ⟨answer, context⟩ := answered
  cases answer with
  | error error => rfl
  | ok found =>
      cases given with
      | error failure =>
          cases found with
          | none => rfl
          | some value => rfl
      | ok result =>
          cases found with
          | none => rfl
          | some value => rfl

theorem through_one_result (operation : String) (form : ResultForm V R) (key : K) (tier : Tier W K V)
    (origin : W → Except (Failure E) R × W) (context : Context W) :
    let consult := tier.computeIfAbsent key context.world
    let answered := consult.run (consulted form origin)
    let ended := throughOne operation form key tier origin context
    ended.1 = loneResult operation form answered.1 (consult.gave? origin) ∧ ended.2.world = answered.2 := by
  intro consult answered ended
  cases began : tier.computeIfAbsent key context.world with
  | answer outcome world =>
      have ran : ended = throughOne operation form key tier origin context := rfl
      rw [throughOne, began] at ran
      simp only [answered, consult, began, Consult.run, Consult.gave?, ran]
      cases outcome with
      | error error => exact ⟨rfl, rfl⟩
      | ok found =>
          cases found with
          | none => exact ⟨rfl, rfl⟩
          | some value => exact ⟨rfl, rfl⟩
  | ask resume world =>
      have ran : ended = _ := through_one_asked operation form key tier origin context resume world began
      simp only [answered, consult, began, Consult.run, Consult.gave?, consulted]
      rw [ran, after_resume_result, after_resume_world]
      exact ⟨rfl, rfl⟩

section Loop

theorem kept_as_filled (operation name : String) (form : ResultForm V R) (key : K) (tier : Tier W K V)
    (given : Except (Failure E) R) (world : W) (metrics counted : Metrics) :
    let kept := afterResume operation name form given
      (Context.onWorld (Tier.keep tier.put key (.ok (offered form given))) ⟨world, metrics⟩)
    let filled := handOnInOrder operation form key [tier] (given, ⟨world, counted⟩)
    kept.1 = filled.1 ∧ kept.2.world = filled.2.world := by
  intro kept filled
  cases given with
  | error failure => exact ⟨rfl, rfl⟩
  | ok result =>
      cases valued : form.toValue? result with
      | none =>
          simp only [kept, filled, offered, handOnInOrder, valued]
          exact ⟨rfl, rfl⟩
      | some value =>
          rcases put : tier.put key value world with ⟨answer, after⟩
          simp only [kept, filled, offered, handOnInOrder, valued, fill, Context.onWorld, Tier.keep, put]
          cases answer with
          | error error => exact ⟨rfl, rfl⟩
          | ok done => exact ⟨rfl, rfl⟩

theorem through_one_as_loop (operation : String) (form : ResultForm V R) (key : K) (tier : Tier W K V)
    (origin : W → Except (Failure E) R × W) (context : Context W)
    (usual : tier.computeIfAbsent key context.world = Tier.getThenPut tier.get tier.put key context.world) :
    let lone := throughOne operation form key tier origin context
    let loop := throughTiers operation form key [tier] origin context
    lone.1 = loop.1 ∧ lone.2.world = loop.2.world := by
  intro lone loop
  rcases got : tier.get key context.world with ⟨answer, after⟩
  have read := Context.on_world_of_eq got
  rw [Tier.getThenPut, got] at usual
  cases answer with
  | error error =>
      simp only [lone, loop, throughOne, throughTiers, search, usual, read]
      exact ⟨trivial, trivial⟩
  | ok found =>
      cases found with
      | some value =>
          simp only [lone, loop, throughOne, throughTiers, search, usual, read, afterConsult, fill, afterFill]
          exact ⟨trivial, trivial⟩
      | none =>
          have asked : lone = _ := through_one_asked operation form key tier origin context _ after usual
          have missed : loop = _ := through_tiers_missed operation form key [tier] origin context.world after context.metrics
            (.cons tier [] _ after after got (.nil after))
          rw [asked, missed]
          exact kept_as_filled operation tier.name form key tier (origin after).1 (origin after).2 _ _

-- The watched resolutions show the calls in their order. They are those of the resolutions that nobody watches.
theorem lone_tier_resolves_as_loop (operation : String) (form : ResultForm V R) (key : K) (tier : Tier W K V)
    (origin : W → Except (Failure E) R × W) (context : Context W)
    (usual : tier.computeIfAbsent key context.world = Tier.getThenPut tier.get tier.put key context.world) :
    let lone := blocking operation form key [tier] origin context
    let loop := throughTiers operation form key [tier] origin context
    let start : Context (Watched W V (Except (Failure E) R)) := ⟨⟨context.world, []⟩, context.metrics⟩
    let loneWatched := blocking operation form key [tier.watched 0] (Watched.act .asks .gave origin) start
    let loopWatched := throughTiers operation form key [tier.watched 0] (Watched.act .asks .gave origin) start
    (lone.1 = loop.1 ∧ lone.2.world = loop.2.world) ∧ loneWatched.2.world.trail = loopWatched.2.world.trail ∧
      (loneWatched.1 = lone.1 ∧ loneWatched.2.world.world = lone.2.world) ∧
      (loopWatched.1 = loop.1 ∧ loopWatched.2.world.world = loop.2.world) := by
  intro lone loop start loneWatched loopWatched
  have same : lone.1 = loop.1 ∧ lone.2.world = loop.2.world :=
    through_one_as_loop operation form key tier origin context usual
  have usualWatched : (tier.watched 0).computeIfAbsent key start.world =
      Tier.getThenPut (tier.watched 0).get (tier.watched 0).put key start.world := by
    have watched := Tier.usual_watched 0 tier.get tier.put key start.world
    rw [← usual] at watched
    exact watched
  have sameWatched : loneWatched.1 = loopWatched.1 ∧ loneWatched.2.world = loopWatched.2.world :=
    through_one_as_loop operation form key (tier.watched 0) (Watched.act .asks .gave origin) start usualWatched
  have erased : loneWatched.1 = lone.1 ∧ loneWatched.2.world.world = lone.2.world ∧ _ :=
    blocking_watched operation form key [tier] origin context []
  have trails := congrArg Watched.trail sameWatched.2
  have worlds := congrArg Watched.world sameWatched.2
  refine ⟨same, trails, ⟨erased.1, erased.2.1⟩, ?_, ?_⟩
  · exact sameWatched.1.symm.trans (erased.1.trans same.1)
  · exact worlds.symm.trans (erased.2.1.trans same.2)

def loneFull : Context World :=
  ⟨⟨[⟨.scripted ⟨"near", .empty, none, some ⟨.tier "near" "full", none⟩, 0, 0, .usual⟩, true⟩], .empty, []⟩, .empty⟩

theorem lone_full_tier_as_loop :
    let tier := World.tier ⟨0, "near"⟩
    let given : Except (Failure String) Json := .ok (.int 9)
    let full : Except CacheError Unit := .error (.tier "near" "full")
    let loop := throughTiers "load" ResultForm.plain (.int 2) [tier.watched 0]
      (Watched.act .asks .gave (Session.originAction given)) ⟨⟨loneFull.world, []⟩, loneFull.metrics⟩
    tier.computeIfAbsent (.int 2) loneFull.world = Tier.getThenPut tier.get tier.put (.int 2) loneFull.world ∧
      (blocking "load" ResultForm.plain (.int 2) [tier] (Session.originAction given) loneFull).1 =
        .error (.cache (.tier "near" "full")) ∧
      loop.2.world.trail =
        [.reads 0, .read 0 (.ok none), .asks, .gave given, .writes 0 (.int 9), .wrote 0 full] := by
  intro tier given full loop
  have usual : tier.computeIfAbsent (.int 2) loneFull.world = Tier.getThenPut tier.get tier.put (.int 2) loneFull.world := by
    rfl
  obtain ⟨⟨result, _⟩, trails, _⟩ := lone_tier_resolves_as_loop (E := String) "load" ResultForm.plain (.int 2) tier
    (Session.originAction given) loneFull usual
  refine ⟨usual, result.trans ?_, trails.symm.trans ?_⟩
  · rfl
  · rfl

end Loop

section Failing

theorem lone_failed (operation : String) (form : ResultForm V R) (key : K) (tier : Tier W K V)
    (origin : W → Except (Failure E) R × W) (context : Context W) (failure : Failure E)
    (failed : (tier.computeIfAbsent key context.world).gave? origin = some (.error failure)) :
    (blocking operation form key [tier] origin context).1 =
      match ((tier.computeIfAbsent key context.world).run (consulted form origin)).1 with
      | .error error => .error (.cache error)
      | .ok _ => .error failure := by
  have result : (blocking operation form key [tier] origin context).1 = _ :=
    (through_one_result operation form key tier origin context).1
  rw [result, failed]
  cases ((tier.computeIfAbsent key context.world).run (consulted form origin)).1 with
  | error error => rfl
  | ok found => rfl

theorem yields_answers (form : ResultForm V R) (consult : Consult W V) (origin : W → Except (Failure E) R × W)
    (failure : Failure E) (yields : consult.Yields) (failed : consult.gave? origin = some (.error failure)) :
    ∃ found, (consult.run (consulted form origin)).1 = .ok found := by
  cases consult with
  | answer outcome world => cases failed
  | ask resume world =>
      have given : (origin world).1 = .error failure := Option.some.inj failed
      simp only [Consult.run, consulted, given, offered]
      cases answered : (resume (.ok none) (origin world).2).1 with
      | error error => exact absurd answered (yields _ error)
      | ok found => exact ⟨found, rfl⟩

theorem origin_error_wins_over_yielding_tier (operation : String) (form : ResultForm V R) (key : K) (tier : Tier W K V) :
    ((∀ (origin : W → Except (Failure E) R × W) (context : Context W) (failure : Failure E),
        (tier.computeIfAbsent key context.world).gave? origin = some (.error failure) →
        (blocking operation form key [tier] origin context).1 = .error failure) ↔
      ∀ world, (tier.computeIfAbsent key world).Yields) ∧
    ∀ (origin : W → Except (Failure E) R × W) (context : Context W) (failure : Failure E) (error : CacheError),
      (tier.computeIfAbsent key context.world).gave? origin = some (.error failure) →
      ((tier.computeIfAbsent key context.world).run (consulted form origin)).1 = .error error →
      (blocking operation form key [tier] origin context).1 = .error (.cache error) := by
  refine ⟨⟨?_, ?_⟩, ?_⟩
  · intro wins world
    cases began : tier.computeIfAbsent key world with
    | answer outcome after => trivial
    | ask resume after =>
        intro later error answered
        -- Two origins that fail differently and leave the tier at the same place are answered the same.
        have hidden (failure : Failure E) : failure = .cache error := by
          have won := wins (fun _ => (.error failure, later)) ⟨world, .empty⟩ failure (by rw [began]; rfl)
          rw [lone_failed operation form key tier _ _ failure (by rw [began]; rfl)] at won
          simp only [began, Consult.run, consulted, offered, answered] at won
          exact (Except.error.inj won).symm
        cases (hidden (.cache (.redis ""))).trans (hidden (.cache (.toml ""))).symm
  · intro yields origin context failure failed
    obtain ⟨found, answered⟩ := yields_answers form _ origin failure (yields context.world) failed
    rw [lone_failed operation form key tier origin context failure failed, answered]
  · intro origin context failure error failed answered
    rw [lone_failed operation form key tier origin context failure failed, answered]

theorem origin_error_wins_over_memory :
    let tier : Tier (Memory Json Json) Json Json := Memory.tier "near"
    (∀ memory, (tier.computeIfAbsent (.str "k") memory).Yields) ∧
      (blocking "op" ResultForm.plain (.str "k") [tier] (fun memory => (.error (.origin "boom"), memory))
        ⟨.new "near" 10 none, .empty⟩).1 = .error (.origin "boom") := by
  intro tier
  have yields (memory : Memory Json Json) : (tier.computeIfAbsent (.str "k") memory).Yields := by
    simp only [tier, Memory.tier, Memory.computeIfAbsent]
    cases memory.find? (.str "k") with
    | some value => trivial
    | none =>
        intro later error answered
        cases answered
  obtain ⟨wins, _⟩ := origin_error_wins_over_yielding_tier (E := String) "op" ResultForm.plain (.str "k") tier
  exact ⟨yields, wins.mpr yields _ _ _ rfl⟩

def loneFailing : Context World :=
  ⟨⟨[⟨.scripted ⟨"near", .empty, none, none, 0, 0, .failAfter⟩, true⟩], .empty, []⟩, .empty⟩

theorem late_error_hides_origin_error :
    let tier := World.tier ⟨0, "near"⟩
    let origin := Session.originAction (.error (.origin "boom") : Except (Failure String) Json)
    let ended := blocking "op" ResultForm.plain (.str "k") [tier] origin loneFailing
    (tier.computeIfAbsent (.str "k") loneFailing.world).gave? origin = some (.error (.origin "boom")) ∧
      ended.1 ≠ .error (.origin "boom") ∧ ended.1 = .error (.cache (.tier "near" "failed after origin")) := by
  intro tier origin ended
  have hidden : ended.1 = .error (.cache (.tier "near" "failed after origin")) := by rfl
  refine ⟨by rfl, ?_, hidden⟩
  rw [hidden]
  intro same
  cases same

end Failing

end Resolve

end CacheTiers
